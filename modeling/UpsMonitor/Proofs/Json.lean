import UpsMonitor.Json

/-!
# Reading JSON text

A reader that takes JSON text apart. It knows nothing of how text is written: it follows the marks,
the quotes and the escapes of the format. Main statements:

* `spells_quoted`: a quoted text is read as what it says;
* `spells_record`, `spells_list`: records and lists are read as their fields and items between
  marks;
* `items?_intercalate`: what stands between commas is given back item by item.
-/

namespace UpsMonitor.Json

/-- A piece of JSON text: what a quoted text says, or any character outside of quotes. -/
inductive Piece
  | text (content : String)
  | mark (c : Char)
  deriving DecidableEq

/-- The character that a letter behind a backslash stands for. -/
def named : Char → Option Char
  | '"' => some '"'
  | '\\' => some '\\'
  | '/' => some '/'
  | 'b' => some '\x08'
  | 'f' => some '\x0c'
  | 'n' => some '\n'
  | 'r' => some '\r'
  | 't' => some '\t'
  | _ => none

/-- The value of a hexadecimal digit. -/
def hexValue (c : Char) : Option Nat :=
  if '0' ≤ c ∧ c ≤ '9' then some (c.toNat - 48)
  else if 'a' ≤ c ∧ c ≤ 'f' then some (c.toNat - 87)
  else if 'A' ≤ c ∧ c ≤ 'F' then some (c.toNat - 55)
  else none

/-- Where in a text a reader is. In quotes it has what was said so far, the latest first. -/
inductive Place
  | outside
  | quoted (said : List Char)
  /-- Behind a backslash. -/
  | escape (said : List Char)
  /-- In a code, of which so many digits are still to come behind the next one. -/
  | code (said : List Char) (digits value : Nat)

/-- The pieces from a place on. There are none if the text ends in quotes, or has an escape that
does not exist. -/
def readFrom : Place → List Char → Option (List Piece)
  | .outside, [] => some []
  | .quoted _, [] | .escape _, [] | .code _ _ _, [] => none
  | .outside, c :: rest =>
    if c = '"' then readFrom (.quoted []) rest else (readFrom .outside rest).map (.mark c :: ·)
  | .quoted said, c :: rest =>
    if c = '"' then (readFrom .outside rest).map (.text (String.ofList said.reverse) :: ·)
    else if c = '\\' then readFrom (.escape said) rest
    else readFrom (.quoted (c :: said)) rest
  | .escape said, c :: rest =>
    if c = 'u' then readFrom (.code said 3 0) rest
    else
      match named c with
      | some meant => readFrom (.quoted (meant :: said)) rest
      | none => none
  | .code said digits value, c :: rest =>
    match hexValue c, digits with
    | some digit, 0 => readFrom (.quoted (.ofNat (16 * value + digit) :: said)) rest
    | some digit, digits + 1 => readFrom (.code said digits (16 * value + digit)) rest
    | none, _ => none

def pieces? (text : String) : Option (List Piece) := readFrom .outside text.toList

/-! ## What is written -/

/-- A text that is read as these pieces, whatever comes behind it. -/
def Spells (text : String) (pieces : List Piece) : Prop :=
  ∀ rest, readFrom .outside (text.toList ++ rest) = (readFrom .outside rest).map (pieces ++ ·)

theorem Spells.pieces? {text : String} {pieces : List Piece} (spells : Spells text pieces) :
    pieces? text = some pieces := by
  have alone := spells []
  rw [List.append_nil, readFrom, Option.map_some, List.append_nil] at alone
  exact alone

theorem Spells.append {text later : String} {pieces more : List Piece} (h : Spells text pieces)
    (k : Spells later more) : Spells (text ++ later) (pieces ++ more) := by
  intro rest
  rw [String.toList_append, List.append_assoc, h, k, Option.map_map]
  congr 1
  funext behind
  exact (List.append_assoc ..).symm

/-- Outside of quotes every character is a piece. -/
theorem spells_marks {text : String} (plain : '"' ∉ text.toList) :
    Spells text (text.toList.map .mark) := by
  intro rest
  generalize text.toList = chars at plain
  induction chars with
  | nil => simp
  | cons c chars ih =>
    obtain ⟨first, others⟩ := not_or.mp (mt List.mem_cons.mpr plain)
    rw [List.cons_append, readFrom, if_neg (Ne.symm first), ih others, Option.map_map]
    rfl

theorem hexValue_hexDigit : ∀ digit < 16, hexValue (hexDigit digit) = some digit := by decide

/-- An escaped character is read as that character. -/
theorem readFrom_escape (said : List Char) (c : Char) (rest : List Char) :
    readFrom (.quoted said) (escape c ++ rest) = readFrom (.quoted (c :: said)) rest := by
  have by_letter (letter meant : Char) (means : named letter = some meant) (other : letter ≠ 'u') :
      readFrom (.quoted said) ('\\' :: letter :: rest) =
        readFrom (.quoted (meant :: said)) rest := by
    simp [readFrom, other, means]
  unfold escape
  split
  · exact by_letter _ _ rfl (by decide)
  · exact by_letter _ _ rfl (by decide)
  · exact by_letter _ _ rfl (by decide)
  · exact by_letter _ _ rfl (by decide)
  · exact by_letter _ _ rfl (by decide)
  · exact by_letter _ _ rfl (by decide)
  · exact by_letter _ _ rfl (by decide)
  · next quote backslash _ _ _ _ _ =>
    split
    · next low =>
      have high := hexValue_hexDigit (c.toNat / 16) (by omega)
      have digit := hexValue_hexDigit (c.toNat % 16) (by omega)
      have zero : hexValue '0' = some 0 := by decide
      have whole : 16 * (c.toNat / 16) + c.toNat % 16 = c.toNat := Nat.div_add_mod _ _
      simp [readFrom, zero, high, digit, whole]
    · rw [List.singleton_append, readFrom, if_neg quote, if_neg backslash]

theorem readFrom_content (said text rest : List Char) :
    readFrom (.quoted said) (text.flatMap escape ++ '"' :: rest) =
      (readFrom .outside rest).map (.text (String.ofList (said.reverse ++ text)) :: ·) := by
  induction text generalizing said with
  | nil => simp [readFrom]
  | cons c text ih =>
    rw [List.flatMap_cons, List.append_assoc, readFrom_escape, ih, List.reverse_cons,
      List.append_assoc, List.singleton_append]

/-- **A quoted text is read as what it says.** -/
theorem spells_quoted (text : String) : Spells (quoted text) [.text text] := by
  intro rest
  have opened : (quoted text).toList ++ rest =
      '"' :: (text.toList.flatMap escape ++ '"' :: rest) := by
    simp [quoted]
  rw [opened, readFrom, if_pos rfl, readFrom_content, List.reverse_nil, List.nil_append,
    String.ofList_toList]
  rfl

section
variable {α : Type} {items : List α} {text : α → String} (said : α → List Piece)

theorem spells_intercalate (each : ∀ item ∈ items, Spells (text item) (said item)) :
    Spells (",".intercalate (items.map text)) ([.mark ','].intercalate (items.map said)) := by
  induction items with
  | nil =>
    have nothing : Spells "" [] := spells_marks (by decide)
    exact nothing
  | cons item items ih =>
    obtain ⟨first, others⟩ := List.forall_mem_cons.mp each
    cases items with
    | nil => simpa using first
    | cons next items =>
      have comma : Spells "," [.mark ','] := spells_marks (by decide)
      simp only [List.map_cons, String.intercalate_cons_cons, List.intercalate_cons_cons] at ih ⊢
      exact (first.append comma).append (ih others)

/-- **A list is read as its items,** between marks. -/
theorem spells_list (each : ∀ item ∈ items, Spells (text item) (said item)) :
    Spells (list (items.map text))
      (.mark '[' :: [.mark ','].intercalate (items.map said) ++ [.mark ']']) := by
  have opening : Spells "[" [.mark '['] := spells_marks (by decide)
  have closing : Spells "]" [.mark ']'] := spells_marks (by decide)
  exact (opening.append (spells_intercalate said each)).append closing

/-- **A record is read as its fields,** between marks. -/
theorem spells_record (key : α → String) (each : ∀ item ∈ items, Spells (text item) (said item)) :
    Spells (record (items.map fun item => (key item, text item)))
      (.mark '\x7b' :: [.mark ','].intercalate
        (items.map fun item => .text (key item) :: .mark ':' :: said item) ++ [.mark '\x7d']) := by
  have opening : Spells "\x7b" [.mark '\x7b'] := spells_marks (by decide)
  have closing : Spells "\x7d" [.mark '\x7d'] := spells_marks (by decide)
  have colon : Spells ":" [.mark ':'] := spells_marks (by decide)
  have fields : ∀ item ∈ items, Spells (quoted (key item) ++ ":" ++ text item)
      (.text (key item) :: .mark ':' :: said item) :=
    fun item member => ((spells_quoted (key item)).append colon).append (each item member)
  rw [record, List.map_map]
  exact (opening.append (spells_intercalate _ fields)).append closing

end

theorem spells_bool (value : Bool) : Spells (bool value) ((bool value).toList.map .mark) :=
  spells_marks (by cases value <;> decide)

/-! ## What is read -/

/-- What comes behind these pieces, if they come first. -/
def strip? (opening pieces : List Piece) : Option (List Piece) :=
  if opening.isPrefixOf pieces then some (pieces.drop opening.length) else none

/-- What comes before the first such piece, and what comes behind it. -/
def until? (stop : Piece) : List Piece → Option (List Piece × List Piece)
  | [] => none
  | piece :: rest =>
    if piece = stop then some ([], rest)
    else (until? stop rest).map fun (before, behind) => (piece :: before, behind)

/-- The items between commas. -/
def items? {α : Type} (item? : List Piece → Option α) (pieces : List Piece) : Option (List α) :=
  if pieces = [] then some [] else (pieces.splitOn (.mark ',')).mapM item?

theorem strip?_append (opening rest : List Piece) :
    strip? opening (opening ++ rest) = some rest := by
  have first : opening.isPrefixOf (opening ++ rest) = true :=
    List.isPrefixOf_iff_prefix.mpr (List.prefix_append _ _)
  rw [strip?, if_pos first, List.drop_left]

theorem until?_append {stop : Piece} {before : List Piece} (absent : stop ∉ before)
    (rest : List Piece) : until? stop (before ++ stop :: rest) = some (before, rest) := by
  induction before with
  | nil => simp [until?]
  | cons piece before ih =>
    obtain ⟨other, later⟩ := not_or.mp (mt List.mem_cons.mpr absent)
    rw [List.cons_append, until?, if_neg (Ne.symm other), ih later]
    rfl

theorem not_mem_intercalate {α : Type} {said : α → List Piece} {stop : Piece} {items : List α}
    (other : stop ≠ .mark ',') (each : ∀ item ∈ items, stop ∉ said item) :
    stop ∉ [.mark ','].intercalate (items.map said) := by
  induction items with
  | nil => simp
  | cons item items ih =>
    obtain ⟨first, others⟩ := List.forall_mem_cons.mp each
    cases items with
    | nil => simpa using first
    | cons next items =>
      have later := ih others
      rw [List.map_cons] at later
      simp [List.intercalate_cons_cons, first, other, later]

/-- **Items between commas are given back,** if there is none in them. -/
theorem items?_intercalate {α : Type} {item? : List Piece → Option α} {said : α → List Piece}
    (nothing : item? [] = none) {items : List α}
    (each : ∀ item ∈ items, .mark ',' ∉ said item ∧ item? (said item) = some item) :
    items? item? ([.mark ','].intercalate (items.map said)) = some items := by
  have read : ∀ items : List α, (∀ item ∈ items, item? (said item) = some item) →
      (items.map said).mapM item? = some items := by
    intro items given
    induction items with
    | nil => rfl
    | cons item items ih =>
      obtain ⟨first, others⟩ := List.forall_mem_cons.mp given
      rw [List.map_cons, List.mapM_cons, first, ih others]
      rfl
  cases items with
  | nil => rfl
  | cons item items =>
    have some_pieces : [.mark ','].intercalate ((item :: items).map said) ≠ [] := by
      cases items with
      | nil =>
        intro none_said
        have silent : said item = [] := by simpa using none_said
        have given := (each item List.mem_cons_self).2
        rw [silent, nothing] at given
        cases given
      | cons next items => simp [List.intercalate_cons_cons]
    have apart : ∀ pieces ∈ (item :: items).map said, .mark ',' ∉ pieces := by
      intro pieces member
      obtain ⟨other, inside, rfl⟩ := List.mem_map.mp member
      exact (each other inside).1
    rw [items?, if_neg some_pieces, List.splitOn_intercalate _ apart (List.cons_ne_nil _ _)]
    exact read _ fun other inside => (each other inside).2

end UpsMonitor.Json
