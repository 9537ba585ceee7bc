/-!
# Text

A text is a list of characters, so that every operation below is a plain recursion on the data.
The operations are those of any text library: cutting at a mark, joining, searching, replacing.
Cutting and joining are inverse to each other (`join_splitOn`).
-/

namespace PluginReadme

/-- A text, one entry per code point. -/
abbrev Text := List Char

/-- A literal stands for the text of its characters. -/
instance : Coe String Text := ⟨String.toList⟩

namespace Text

/-! ## Cutting and joining -/

/-- Puts a character in front of the first piece. -/
def consFirst (c : Char) : List Text → List Text
  | [] => [[c]]
  | first :: more => (c :: first) :: more

/-- The pieces between the marks; there is one piece more than there are marks. -/
def splitOn (mark : Char) : Text → List Text
  | [] => [[]]
  | c :: rest => if c = mark then [] :: splitOn mark rest else consFirst c (splitOn mark rest)

/-- The pieces with the glue between them. -/
def join (glue : Text) (pieces : List Text) : Text :=
  glue.intercalate pieces

/-- What follows the given beginning, if the text starts with it. -/
def after? (start : Text) (t : Text) : Option Text :=
  start.isPrefixOf? t

def startsWith (start t : Text) : Bool := start.isPrefixOf t

def endsWith (tail t : Text) : Bool := tail.isSuffixOf t

/-! ## Trimming -/

/-- The text without the longest run of matching characters at its end. -/
def dropEndWhile (p : Char → Bool) (t : Text) : Text :=
  (t.reverse.dropWhile p).reverse

/-- The longest run of matching characters at the end. -/
def takeEndWhile (p : Char → Bool) (t : Text) : Text :=
  (t.reverse.takeWhile p).reverse

/-- The text without the matching characters at either end. -/
def trim (p : Char → Bool) (t : Text) : Text :=
  dropEndWhile p (t.dropWhile p)

/-! ## Searching and replacing -/

/-- The number of characters before the first place where `needle` stands. -/
def indexOf? (needle : Text) : Text → Option Nat
  | [] => if needle.isEmpty then some 0 else none
  | c :: rest =>
    if needle.isPrefixOf (c :: rest) then some 0 else (indexOf? needle rest).map (· + 1)

def occurs (needle t : Text) : Bool := (indexOf? needle t).isSome

/-- The number of characters before the first place from which the rest of the text is as asked. -/
def offset? (holds : Text → Bool) : Text → Option Nat
  | [] => none
  | c :: rest => if holds (c :: rest) then some 0 else (offset? holds rest).map (· + 1)

/-- Replaces `old`, which is not empty, from left to right; `skip` characters of a replaced
occurrence are still to be passed over. -/
def replaceFrom (old new : Text) : Nat → Text → Text
  | _, [] => []
  | skip + 1, _ :: rest => replaceFrom old new skip rest
  | 0, c :: rest =>
    if old.isPrefixOf (c :: rest) then new ++ replaceFrom old new (old.length - 1) rest
    else c :: replaceFrom old new 0 rest

/-- Replaces every occurrence of `old`. The empty text occurs around every character. -/
def replaceAll (old new t : Text) : Text :=
  if old.isEmpty then new ++ t.flatMap fun c ↦ c :: new else replaceFrom old new 0 t

/-- Counts the occurrences of `needle`, which is not empty, that do not overlap. -/
def countFrom (needle : Text) : Nat → Text → Nat
  | _, [] => 0
  | skip + 1, _ :: rest => countFrom needle skip rest
  | 0, c :: rest =>
    if needle.isPrefixOf (c :: rest) then countFrom needle (needle.length - 1) rest + 1
    else countFrom needle 0 rest

def countOf (needle t : Text) : Nat := countFrom needle 0 t

/-! ## Numbers -/

def ofNat (n : Nat) : Text := Nat.toDigits 10 n

/-- The decimal digits of an integer, after a minus sign if it is negative. -/
def ofInt : Int → Text
  | .ofNat n => ofNat n
  | .negSucc n => '-' :: ofNat (n + 1)

/-! ## Order -/

/-- Compares two texts code point by code point, a shorter text before its extensions. -/
def before : Text → Text → Bool
  | [], [] => false
  | [], _ :: _ => true
  | _ :: _, [] => false
  | a :: s, b :: t => if a = b then before s t else a.toNat < b.toNat

/-- Puts a text into texts that stand in order, unless it is among them. -/
def insertInOrder (t : Text) : List Text → List Text
  | [] => [t]
  | s :: rest =>
    if t = s then s :: rest
    else if before t s then t :: s :: rest
    else s :: insertInOrder t rest

/-- The texts in order, each of them once. -/
def inOrder (ts : List Text) : List Text := ts.foldr insertInOrder []

/-! ## Laws -/

theorem mem_insertInOrder {s t : Text} {ts : List Text} :
    s ∈ insertInOrder t ts ↔ s = t ∨ s ∈ ts := by
  induction ts with
  | nil => simp [insertInOrder]
  | cons r ts ih =>
    unfold insertInOrder
    split
    · rename_i h
      simp [h]
    · split
      · simp
      · simp [ih, or_left_comm]

theorem mem_inOrder {s : Text} {ts : List Text} : s ∈ inOrder ts ↔ s ∈ ts := by
  induction ts with
  | nil => simp [inOrder]
  | cons t ts ih =>
    change s ∈ insertInOrder t (inOrder ts) ↔ _
    rw [mem_insertInOrder, ih, List.mem_cons]

theorem splitOn_ne_nil (mark : Char) (t : Text) : splitOn mark t ≠ [] := by
  induction t with
  | nil => simp [splitOn]
  | cons c rest ih =>
    unfold splitOn
    split
    · simp
    · cases h : splitOn mark rest with
      | nil => exact absurd h ih
      | cons first more => simp [consFirst]

theorem join_consFirst (glue : Text) (c : Char) (pieces : List Text) (h : pieces ≠ []) :
    join glue (consFirst c pieces) = c :: join glue pieces := by
  cases pieces with
  | nil => exact absurd rfl h
  | cons first more =>
    cases more with
    | nil => simp [consFirst, join, List.intercalate]
    | cons second more => simp [consFirst, join, List.intercalate, List.intersperse]

/-- Joining the pieces with the mark gives the text back. -/
theorem join_splitOn (mark : Char) (t : Text) : join [mark] (splitOn mark t) = t := by
  induction t with
  | nil => simp [splitOn, join, List.intercalate]
  | cons c rest ih =>
    unfold splitOn
    split
    · rename_i h
      subst h
      cases hs : splitOn c rest with
      | nil => exact absurd hs (splitOn_ne_nil c rest)
      | cons first more =>
        rw [hs] at ih
        simp [join, List.intercalate, List.intersperse] at ih ⊢
        exact ih
    · rw [join_consFirst _ _ _ (splitOn_ne_nil mark rest), ih]

end Text

end PluginReadme
