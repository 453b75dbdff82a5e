import StepFree.Json.Reader
import StepFree.Proofs.Datum.Entering
import StepFree.Proofs.Json.Spelling

namespace StepFree.Json

section
variable {n : Nat} {ts r rest : List Token} {d : Datum}

theorem items_last (first : value n ts = .ok (d, .closeList :: r)) :
    items (n + 1) ts = .ok ([d], r) := by
  rw [items, first]
  rfl

theorem items_more {ds : List Datum} (first : value n ts = .ok (d, .comma :: r))
    (later : items n r = .ok (ds, rest)) : items (n + 1) ts = .ok (d :: ds, rest) := by
  rw [items, first]
  change (items n r >>= fun later => Except.ok (d :: later.1, later.2)) = _
  rw [later]
  rfl

theorem members_last {name : String} (first : value n ts = .ok (d, .closeObject :: r)) :
    members (n + 1) (.leaf (.text name) :: .colon :: ts) = .ok ([(.text name, d)], r) := by
  rw [members, first]
  rfl

theorem members_more {name : String} {ds : List (Datum × Datum)}
    (first : value n ts = .ok (d, .comma :: r)) (later : members n r = .ok (ds, rest)) :
    members (n + 1) (.leaf (.text name) :: .colon :: ts) = .ok ((.text name, d) :: ds, rest) := by
  rw [members, first]
  change (members n r >>= fun later => Except.ok ((.text name, d) :: later.1, later.2)) = _
  rw [later]
  rfl

theorem value_items {ds : List Datum} (inner : items n ts = .ok (ds, r)) :
    value (n + 1) (.openList :: ts) = .ok (.list ds, r) := by
  have visible : ∀ rest, ts ≠ .closeList :: rest := by
    rintro rest rfl
    match n with
    | 0 | 1 | _ + 2 => cases inner
  rw [value, inner]
  · rfl
  · exact visible

theorem value_members {ds : List (Datum × Datum)} (inner : members n ts = .ok (ds, r)) :
    value (n + 1) (.openObject :: ts) = .ok (.ofPairs ds, r) := by
  have visible : ∀ rest, ts ≠ .closeObject :: rest := by
    rintro rest rfl
    match n with
    | 0 | _ + 1 => cases inner
  rw [value, inner]
  · rfl
  · exact visible

end

theorem items_texts {texts : List String} (nonempty : texts ≠ []) {n : Nat} (r : List Token)
    (enough : ([Token.comma].intercalate (texts.map fun s => [.leaf (.text s)])).length < n) :
    items n ([.comma].intercalate (texts.map fun s => [.leaf (.text s)]) ++ .closeList :: r) =
      .ok (texts.map .text, r) := by
  induction texts generalizing n with
  | nil => contradiction
  | cons s rest ih =>
    cases rest with
    | nil =>
      simp only [List.map_cons, List.map_nil, List.intercalate_singleton] at enough ⊢
      rw [List.length_singleton] at enough
      obtain ⟨m, rfl⟩ : ∃ m, n = m + 2 := ⟨n - 2, by omega⟩
      exact items_last rfl
    | cons t rest =>
      simp only [List.map_cons, List.intercalate_cons_cons] at enough ih ⊢
      simp only [List.length_append, List.length_singleton] at enough
      obtain ⟨m, rfl⟩ : ∃ m, n = m + 2 := ⟨n - 2, by omega⟩
      exact items_more rfl (ih (List.cons_ne_nil t rest) (by omega))

theorem value_list (texts : List String) {n : Nat} (r : List Token)
    (enough : (listTokens texts).length ≤ n) :
    value n (listTokens texts ++ r) = .ok (.ofTexts texts, r) := by
  simp only [listTokens, List.length_append, List.length_singleton] at enough
  obtain ⟨m, rfl⟩ : ∃ m, n = m + 1 := ⟨n - 1, by omega⟩
  cases texts with
  | nil => rfl
  | cons s rest =>
    have inner := items_texts (List.cons_ne_nil s rest) (n := m) r (by omega)
    rw [listTokens, List.append_assoc, List.append_assoc]
    exact value_items inner

theorem members_rows {rows : List Row} (nonempty : rows ≠ []) {n : Nat} (r : List Token)
    (enough : ([Token.comma].intercalate (rows.map Row.tokens)).length < n) :
    members n ([.comma].intercalate (rows.map Row.tokens) ++ .closeObject :: r) =
      .ok (rows.map fun row => (.text row.1, .ofTexts row.2), r) := by
  induction rows generalizing n with
  | nil => contradiction
  | cons row rest ih =>
    cases rest with
    | nil =>
      simp only [List.map_cons, List.map_nil, List.intercalate_singleton] at enough ⊢
      rw [Row.length_tokens] at enough
      obtain ⟨m, rfl⟩ : ∃ m, n = m + 1 := ⟨n - 1, by omega⟩
      rw [Row.tokens, List.append_assoc]
      exact members_last (value_list row.2 _ (by omega))
    | cons other rest =>
      simp only [List.map_cons, List.intercalate_cons_cons] at enough ih ⊢
      simp only [List.length_append, List.length_singleton, Row.length_tokens] at enough
      obtain ⟨m, rfl⟩ : ∃ m, n = m + 1 := ⟨n - 1, by omega⟩
      have later := ih (List.cons_ne_nil other rest) (n := m) (by omega)
      rw [Row.tokens, List.append_assoc, List.append_assoc, List.append_assoc]
      exact members_more (value_list row.2 _ (by omega)) later

theorem value_table (rows : List Row) {n : Nat} (enough : (tableTokens rows).length ≤ n) :
    value n (tableTokens rows) =
      .ok (.ofPairs (rows.map fun row => (.text row.1, .ofTexts row.2)), []) := by
  simp only [tableTokens, List.length_append, List.length_singleton] at enough
  obtain ⟨m, rfl⟩ : ∃ m, n = m + 1 := ⟨n - 1, by omega⟩
  cases rows with
  | nil => rfl
  | cons row rest =>
    have inner := members_rows (List.cons_ne_nil row rest) (n := m) [] (by omega)
    rw [tableTokens, List.append_assoc]
    exact value_members inner

theorem foldl_enter (entries pairs : List (String × Datum))
    (distinct : ((entries ++ pairs).map Prod.fst).Nodup) :
    (pairs.map fun e => (Datum.text e.1, e.2)).foldl (fun entries e => Datum.enter entries e.1 e.2)
      (entries.map fun e => (Datum.text e.1, e.2)) =
      (entries ++ pairs).map fun e => (Datum.text e.1, e.2) := by
  induction pairs generalizing entries with
  | nil => simp
  | cons e r ih =>
    have fresh : e.1 ∉ entries.map Prod.fst := by
      rw [List.map_append, List.nodup_append] at distinct
      exact fun old => distinct.2.2 e.1 old e.1 List.mem_cons_self rfl
    have step : Datum.enter (entries.map fun e => (Datum.text e.1, e.2)) (.text e.1) e.2 =
        (entries ++ [e]).map fun e => (Datum.text e.1, e.2) := by
      rw [Datum.enter, if_neg]
      · rw [List.map_append]
        rfl
      · rw [List.any_map, List.any_eq_true]
        rintro ⟨old, member, same⟩
        obtain here : old.1 = e.1 := Datum.text.inj (Datum.sameKey_text.mp same)
        exact fresh (here ▸ List.mem_map_of_mem member)
    rw [List.map_cons, List.foldl_cons, step, ih, List.append_assoc]
    · rfl
    · simpa using distinct

theorem ofPairs_rows {rows : List Row} (distinct : (rows.map Prod.fst).Nodup) :
    Datum.ofPairs (rows.map fun row => (.text row.1, .ofTexts row.2)) = tableDatum rows := by
  have entered := foldl_enter [] (rows.map fun row => (row.1, .ofTexts row.2)) <| by
    simpa [Function.comp_def] using distinct
  rw [List.map_map] at entered
  exact congrArg Datum.dict entered

/-- The text of a mapping from texts to lists of texts reads back as the mapping. -/
theorem read_write (rows : List Row) (distinct : (rows.map Prod.fst).Nodup) :
    read (write (tableDatum rows)) = .ok (tableDatum rows) := by
  have spelled : Spells (write (tableDatum rows)).toList (tableTokens rows) := by
    simpa using writes_table rows [] [] .done
  have lexed : tokens (write (tableDatum rows)).length (write (tableDatum rows)).toList =
      tableTokens rows :=
    spelled.tokens (Nat.le_of_eq String.length_toList)
  have parsed := value_table rows (n := 2 * (tableTokens rows).length + 1) (by omega)
  rw [read, lexed]
  simp only [parsed, ofPairs_rows distinct]
  rfl

end StepFree.Json
