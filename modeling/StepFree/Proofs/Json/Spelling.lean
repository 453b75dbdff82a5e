import StepFree.Json.Token
import StepFree.Json.Writer

namespace StepFree.Json

open StepFree.Text

theorem hexUnit_hexDigits {n : Nat} (small : n < 0x20) :
    ∃ c d, hexDigits 4 n = ['0', '0', c, d] ∧ hexUnit? '0' '0' c d = some n := by
  refine ⟨(hexDigits 4 n).getD 2 ' ', (hexDigits 4 n).getD 3 ' ', ?_⟩
  revert n
  decide

theorem textUnits_escapeChar (c : Char) (r : List Char) :
    textUnits (escapeChar c ++ r) =
      (textUnits r).map fun (units, rest) => (c.toNat :: units, rest) := by
  unfold escapeChar
  split
  next quote =>
    rcases (Bool.or_eq_true ..).mp quote with quote | quote
    · obtain rfl := of_decide_eq_true quote
      cases h : textUnits r <;> simp [textUnits, escape?, h]
    · obtain rfl := of_decide_eq_true quote
      cases h : textUnits r <;> simp [textUnits, escape?, h]
  next plain =>
    split
    next small =>
      obtain ⟨a, b, digits, unit⟩ := hexUnit_hexDigits small
      rw [digits]
      cases h : textUnits r <;> simp [textUnits, unit, h]
    next large =>
      have quote : c ≠ '\x22' := by rintro rfl; simp at plain
      have slash : c ≠ '\\' := by rintro rfl; simp at plain
      cases h : textUnits r <;> simp [textUnits, slash, large, h]

theorem textUnits_quoted (s r : List Char) :
    textUnits (s.flatMap escapeChar ++ '\x22' :: r) = some (s.map Char.toNat, r) := by
  induction s with
  | nil => rfl
  | cons c s ih =>
    rw [List.flatMap_cons, List.append_assoc, textUnits_escapeChar, ih]
    rfl

theorem not_half (c : Char) : isHighHalf c.toNat = false ∧ isLowHalf c.toNat = false := by
  have valid : c.toNat < 0xD800 ∨ 0xDFFF < c.toNat ∧ c.toNat < 0x110000 := c.valid
  simp only [isHighHalf, isLowHalf]
  grind

theorem unitChar_toNat (c : Char) : unitChar c.toNat = c := by
  simp [unitChar, not_half c]

theorem joinUnits_toNat (s : List Char) : joinUnits (s.map Char.toNat) = s := by
  induction s with
  | nil => rfl
  | cons c r ih =>
    cases r with
    | nil => simp [joinUnits, unitChar_toNat]
    | cons d r =>
      rw [List.map_cons] at ih
      simp [joinUnits, not_half c, unitChar_toNat, ih]

theorem token?_quoted (s : String) (r : List Char) :
    token? ((quoted s).toList ++ r) = some (.leaf (.text s), r) := by
  simp [quoted, token?, textUnits_quoted, joinUnits_toNat]

inductive Spells : List Char → List Token → Prop
  | done : Spells [] []
  | space {s : List Char} {ts : List Token} (spells : Spells s ts) : Spells (' ' :: s) ts
  | token {c : Char} {s r : List Char} {t : Token} {ts : List Token} (visible : isSpace c = false)
      (first : token? (c :: s) = some (t, r)) (shorter : r.length ≤ s.length)
      (spells : Spells r ts) : Spells (c :: s) (t :: ts)

theorem Spells.tokens {s : List Char} {ts : List Token} (spells : Spells s ts) {rounds : Nat}
    (enough : s.length ≤ rounds) : tokens rounds s = ts := by
  induction spells generalizing rounds with
  | done =>
    rw [Json.tokens]
    rfl
  | space _ ih =>
    rw [← ih (Nat.le_of_succ_le enough), Json.tokens, Json.tokens]
    rfl
  | @token c s r t ts visible first shorter _ ih =>
    -- A token takes at least one character, so a round less is enough for the rest.
    cases rounds with
    | zero => exact absurd enough (Nat.not_succ_le_zero _)
    | succ n =>
      rw [Json.tokens, List.dropWhile_cons_of_neg (Bool.eq_false_iff.mp visible)]
      simp only [first]
      rw [ih (Nat.le_trans shorter (Nat.le_of_succ_le_succ enough))]

/-- A text spells out some tokens, whatever follows it. -/
def Writes (text : String) (ts : List Token) : Prop :=
  ∀ (r : List Char) (us : List Token), Spells r us → Spells (text.toList ++ r) (ts ++ us)

namespace Writes

theorem append {a b : String} {ts us : List Token} (left : Writes a ts) (right : Writes b us) :
    Writes (a ++ b) (ts ++ us) := by
  intro r vs spells
  rw [String.toList_append, List.append_assoc, List.append_assoc]
  exact left _ _ (right r vs spells)

theorem intercalate {α : Type} {text : α → String} {tokens : α → List Token}
    (each : ∀ a, Writes (text a) (tokens a)) (l : List α) :
    Writes (", ".intercalate (l.map text)) ([Token.comma].intercalate (l.map tokens)) := by
  have comma : Writes ", " [.comma] := fun _ _ spells =>
    .token rfl rfl (Nat.le_refl _) (.space spells)
  induction l with
  | nil => exact fun _ _ spells => spells
  | cons a r ih =>
    cases r with
    | nil => simpa [List.intercalate] using each a
    | cons b r =>
      have spelled := ((each a).append comma).append ih
      simpa [List.intercalate] using spelled

end Writes

theorem writes_quoted (s : String) : Writes (quoted s) [.leaf (.text s)] := by
  intro r us spells
  have start : (quoted s).toList ++ r =
      '\x22' :: (s.toList.flatMap escapeChar ++ '\x22' :: r) := by
    simp [quoted]
  rw [start]
  refine .token rfl (start ▸ token?_quoted s r) ?_ spells
  simp only [List.length_append, List.length_cons]
  omega

def listTokens (texts : List String) : List Token :=
  [.openList] ++ [.comma].intercalate (texts.map fun s => [.leaf (.text s)]) ++ [.closeList]

theorem writeItems_texts (texts : List String) :
    writeItems (texts.map .text) = texts.map quoted := by
  induction texts with
  | nil => rfl
  | cons s r ih => rw [List.map_cons, writeItems, ih]; rfl

theorem writes_list (texts : List String) : Writes (write (.ofTexts texts)) (listTokens texts) := by
  rw [Datum.ofTexts, write, writeItems_texts]
  have opening : Writes "[" [.openList] := fun _ _ spells => .token rfl rfl (Nat.le_refl _) spells
  have closing : Writes "]" [.closeList] := fun _ _ spells => .token rfl rfl (Nat.le_refl _) spells
  exact (opening.append (.intercalate writes_quoted texts)).append closing

abbrev Row := String × List String

def Row.tokens (row : Row) : List Token :=
  [.leaf (.text row.1)] ++ [.colon] ++ listTokens row.2

theorem Row.length_tokens (row : Row) : row.tokens.length = (listTokens row.2).length + 2 := by
  simp [tokens]

def tableTokens (rows : List Row) : List Token :=
  [.openObject] ++ [.comma].intercalate (rows.map Row.tokens) ++ [.closeObject]

def Row.write (row : Row) : String :=
  quoted row.1 ++ ": " ++ Json.write (.ofTexts row.2)

theorem Row.writes (row : Row) : Writes row.write row.tokens := by
  have colon : Writes ": " [.colon] := fun _ _ spells =>
    .token rfl rfl (Nat.le_refl _) (.space spells)
  exact ((writes_quoted row.1).append colon).append (writes_list row.2)

def tableDatum (rows : List Row) : Datum :=
  .ofMembers (rows.map fun row => (row.1, .ofTexts row.2))

theorem writeMembers_rows (rows : List Row) :
    writeMembers (rows.map fun row => (.text row.1, .ofTexts row.2)) = rows.map Row.write := by
  induction rows with
  | nil => rfl
  | cons row r ih => rw [List.map_cons, writeMembers, ih]; rfl

theorem writes_table (rows : List Row) : Writes (write (tableDatum rows)) (tableTokens rows) := by
  have written : write (tableDatum rows) =
      "\x7b" ++ ", ".intercalate (rows.map Row.write) ++ "\x7d" := by
    rw [← writeMembers_rows, tableDatum, Datum.ofMembers, List.map_map, write]
    rfl
  have opening : Writes "\x7b" [.openObject] := fun _ _ spells =>
    .token rfl rfl (Nat.le_refl _) spells
  have closing : Writes "\x7d" [.closeObject] := fun _ _ spells =>
    .token rfl rfl (Nat.le_refl _) spells
  rw [written]
  exact (opening.append (.intercalate Row.writes rows)).append closing

end StepFree.Json
