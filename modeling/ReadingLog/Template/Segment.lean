import ReadingLog.Template.Kind
import ReadingLog.Text.Digit

/-!
# Segments of a template

A template is cut into literal text and slots (`Segment.ofTemplate`), and a line is split into pieces that follow the
segments (`Segment.split?`). Of all ways to split a line one is preferred: from the left, a slot for a date, a book or
anything takes as little text as it can, and a slot for a number as much.
-/

namespace ReadingLog.Template

/-- A piece of a template. -/
inductive Segment where
  | literal (text : Text)
  | slot (placeholder : Placeholder)
  deriving DecidableEq, Repr

namespace Segment

/-- Segments with a character in front, joined to a literal that comes first. -/
def prependChar (c : Char) : List Segment → List Segment
  | literal text :: segments => literal (c :: text) :: segments
  | segments => literal [c] :: segments

/-- The segments of a template: the tokens of the placeholders that its kind accepts, and all other text as it is. -/
def ofTemplate (kind : Kind) : Text → List Segment
  | [] => []
  | c :: rest =>
    match Placeholder.all.find? fun p => kind.accepts p && p.token.isPrefixOf (c :: rest) with
    | some p => slot p :: ofTemplate kind (rest.drop (p.token.length - 1))
    | none => prependChar c (ofTemplate kind rest)
termination_by template => template.length
decreasing_by
  · simp only [List.length_drop, List.length_cons]
    omega
  · simp

/-- `low, low + 1, …, low + count - 1`. -/
def upFrom (low count : Nat) : List Nat := (List.range count).map (low + ·)

/-- The length of the text up to its first line feed. -/
def lineLength (s : Text) : Nat := (s.takeWhile (· != '\n')).length

/-- The number of digits, of any script, that the text begins with. -/
def digitCount (s : Text) : Nat := (s.takeWhile Text.isScriptDigit).length

/-- The lengths that a slot can take of a text, the preferred one first. -/
def lengths (s : Text) : Placeholder → List Nat
  | .date | .book => upFrom 1 (lineLength s)
  | .anything => upFrom 0 (lineLength s + 1)
  | .startPage | .endPage => Text.lengthsDown (digitCount s)
  | .finish =>
    let digits := digitCount s
    if digits ≠ 0 ∧ (s.drop digits).head? = some '%' then (digits + 1) :: Text.lengthsDown digits else Text.lengthsDown digits

/-- The preferred way to split a text into one piece for each segment. -/
def split? : List Segment → Text → Option (List Text)
  | [], s => if s.isEmpty then some [] else none
  | literal text :: segments, s =>
    if text.isPrefixOf s then (split? segments (s.drop text.length)).map (text :: ·) else none
  | slot p :: segments, s => (lengths s p).findSome? fun n => (split? segments (s.drop n)).map (s.take n :: ·)

/-! ## Splitting without trying twice

Trying one split after the other can take very long where slots for anything abound. `preferred?` finds the same split from
a table of the preferred splits of every suffix of the text, filled in from the last segment on.
-/

/-- The text and all that remains of it when characters are taken from its start. -/
def suffixes : Text → List Text
  | [] => [[]]
  | c :: s => (c :: s) :: suffixes s

/-- The preferred split of a text by a segment and others after it, where `later n` is the one by the others of what
    follows the first `n` characters. -/
def splitBy (later : Nat → Option (List Text)) (s : Text) : Segment → Option (List Text)
  | literal text => if text.isPrefixOf s then (later text.length).map (text :: ·) else none
  | slot p => (lengths s p).findSome? fun n => (later n).map (s.take n :: ·)

/-- The preferred splits of the suffixes of a text, the longest suffix first. -/
def splitTable (s : Text) : List Segment → Array (Option (List Text))
  | [] => ((suffixes s).map fun t => if t.isEmpty then some [] else none).toArray
  | segment :: segments =>
    let later := splitTable s segments
    ((suffixes s).zipIdx.map fun (t, i) => splitBy (fun n => later[i + n]?.join) t segment).toArray

/-- The preferred way to split a text into one piece for each segment. -/
def preferred? : List Segment → Text → Option (List Text)
  | literal text :: segments, s =>
    if text.isPrefixOf s then (preferred? segments (s.drop text.length)).map (text :: ·) else none
  | segments, s => (splitTable s segments)[0]?.join

theorem length_takeWhile_le (p : Char → Bool) (s : Text) : (s.takeWhile p).length ≤ s.length :=
  (List.takeWhile_sublist p).length_le

theorem mem_upFrom {low count n : Nat} : n ∈ upFrom low count ↔ low ≤ n ∧ n < low + count := by
  simp only [upFrom, List.mem_map, List.mem_range]
  constructor
  · intro taken
    obtain ⟨k, hk, rfl⟩ := taken
    omega
  · intro between
    exact ⟨n - low, by omega, by omega⟩

theorem mem_lengthsDown {m n : Nat} : n ∈ Text.lengthsDown m ↔ 1 ≤ n ∧ n ≤ m := by
  induction m with
  | zero => simp [Text.lengthsDown]; omega
  | succ m ih => simp only [Text.lengthsDown, List.mem_cons, ih]; omega

/-- A slot takes no more than there is. -/
theorem le_length_of_mem_lengths {s : Text} {p : Placeholder} {n : Nat} (h : n ∈ lengths s p) : n ≤ s.length := by
  have line : lineLength s ≤ s.length := length_takeWhile_le _ s
  have digits : digitCount s ≤ s.length := length_takeWhile_le _ s
  cases p <;> simp only [lengths, mem_upFrom, mem_lengthsDown] at h <;> try omega
  split at h
  · next signed =>
    have inside : digitCount s < s.length := by
      apply Nat.lt_of_not_le
      intro outside
      rw [List.drop_eq_nil_of_le outside] at signed
      simp at signed
    simp only [List.mem_cons, mem_lengthsDown] at h
    omega
  · rw [mem_lengthsDown] at h
    omega

theorem findSome?_congr {α β : Type} {f g : α → Option β} {l : List α} (h : ∀ a ∈ l, f a = g a) :
    l.findSome? f = l.findSome? g := by
  induction l with
  | nil => rfl
  | cons a l ih =>
    simp only [List.findSome?_cons, h a (by simp), ih fun b hb => h b (by simp [hb])]

theorem splitBy_eq {later : Nat → Option (List Text)} {s : Text} {segment : Segment} {segments : List Segment}
    (h : ∀ n, n ≤ s.length → later n = split? segments (s.drop n)) :
    splitBy later s segment = split? (segment :: segments) s := by
  cases segment with
  | literal text =>
    simp only [splitBy, split?]
    split
    · next starts => rw [h _ (List.isPrefixOf_iff_prefix.1 starts).length_le]
    · rfl
  | slot p =>
    simp only [splitBy, split?]
    exact findSome?_congr fun n mem => by rw [h n (le_length_of_mem_lengths mem)]

theorem getElem?_suffixes (s : Text) (i : Nat) : (suffixes s)[i]? = if i ≤ s.length then some (s.drop i) else none := by
  induction s generalizing i with
  | nil => cases i <;> simp [suffixes]
  | cons c s ih => cases i <;> simp [suffixes, ih]

/-- Every entry of the table is the preferred split of its suffix. -/
theorem getElem?_splitTable (s : Text) (segments : List Segment) (i : Nat) :
    (splitTable s segments)[i]? = if i ≤ s.length then some (split? segments (s.drop i)) else none := by
  induction segments generalizing i with
  | nil =>
    simp only [splitTable, List.getElem?_toArray, List.getElem?_map, getElem?_suffixes]
    split <;> simp [split?]
  | cons segment segments ih =>
    simp only [splitTable, List.getElem?_toArray, List.getElem?_map, List.getElem?_zipIdx, getElem?_suffixes]
    split
    · next inside =>
      simp only [Option.map_some, Nat.zero_add]
      congr 1
      apply splitBy_eq
      intro n le
      rw [List.length_drop] at le
      rw [ih, if_pos (by omega), List.drop_drop]
      rfl
    · rfl

/-- The table gives the split that trying gives. -/
theorem preferred?_eq (segments : List Segment) (s : Text) : preferred? segments s = split? segments s := by
  fun_induction preferred? segments s with
  | case1 text segments s starts ih => simp [split?, starts, ih]
  | case2 text segments s starts => simp [split?, starts]
  | case3 segments s => simp [getElem?_splitTable]

/-! ## Looking pieces up -/

/-- How often a placeholder stands in a template. -/
def count (p : Placeholder) (segments : List Segment) : Nat := segments.count (slot p)

/-- The piece that a split gives to a placeholder. -/
def piece? (p : Placeholder) (segments : List Segment) (pieces : List Text) : Option Text :=
  ((segments.zip pieces).find? fun (segment, _) => segment = slot p).map (·.2)

/-- The date stands after a slot for anything, which may leave it some of its text. -/
def dateFollowsAnything (segments : List Segment) : Bool :=
  (segments.takeWhile (· != slot .date)).contains (slot .anything)

end Segment
end ReadingLog.Template
