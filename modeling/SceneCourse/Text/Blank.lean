/-!
Blank characters of all scripts, and the text between them.
-/

namespace SceneCourse.Text

/-- Spaces, tabs, line ends and separators of every kind; zero-width marks are not among them. -/
def isBlank (c : Char) : Bool :=
  let n := c.toNat
  (9 ≤ n && n ≤ 13) || (28 ≤ n && n ≤ 32) || n == 0x85 || n == 0xa0 || n == 0x1680 ||
    (0x2000 ≤ n && n ≤ 0x200a) || n == 0x2028 || n == 0x2029 || n == 0x202f ||
      n == 0x205f || n == 0x3000

/-- The characters without the blank ones at the end. -/
def dropEndBlanks (cs : List Char) : List Char := (cs.reverse.dropWhile isBlank).reverse

/-- The characters without the blank ones at either end. -/
def stripList (cs : List Char) : List Char := dropEndBlanks (cs.dropWhile isBlank)

def strip (s : String) : String := .ofList (stripList s.toList)

/-- A text is what stands between the blank characters at the ends of another. -/
structure Strips (cs t : List Char) : Prop where
  between : ∃ before after, cs = before ++ t ++ after ∧ ∀ c ∈ before ++ after, isBlank c = true
  first : ∀ c ∈ t.head?, isBlank c = false
  last : ∀ c ∈ t.getLast?, isBlank c = false

theorem strips_stripList (cs : List Char) : Strips cs (stripList cs) := by
  have start := List.takeWhile_append_dropWhile (p := isBlank) (l := cs)
  have stop := List.takeWhile_append_dropWhile (p := isBlank) (l := (cs.dropWhile isBlank).reverse)
  have back : (cs.dropWhile isBlank) = stripList cs ++
      ((cs.dropWhile isBlank).reverse.takeWhile isBlank).reverse := by
    rw [stripList, dropEndBlanks, ← List.reverse_append, stop, List.reverse_reverse]
  have blank (ds : List Char) : ∀ c ∈ ds.takeWhile isBlank, isBlank c = true :=
    List.all_eq_true.1 List.all_takeWhile
  have other (ds : List Char) : ∀ c ∈ (ds.dropWhile isBlank).head?, isBlank c = false := by
    intro c first
    have other := List.head?_dropWhile_not isBlank ds
    rw [first] at other
    exact other
  refine ⟨⟨cs.takeWhile isBlank, ((cs.dropWhile isBlank).reverse.takeWhile isBlank).reverse, ?_,
    fun c member => ?_⟩, ?_, ?_⟩
  · rw [List.append_assoc, ← back, start]
  · rcases List.mem_append.1 member with before | after
    · exact blank _ c before
    · exact blank _ c (List.mem_reverse.1 after)
  · intro c first
    refine other cs c ?_
    rw [back, List.head?_append, Option.mem_def.1 first]
    rfl
  · intro c last
    rw [stripList, dropEndBlanks, List.getLast?_reverse] at last
    exact other _ c last

theorem dropWhile_of_head? {p : Char → Bool} {cs : List Char}
    (other : ∀ c ∈ cs.head?, p c = false) : cs.dropWhile p = cs := by
  cases cs with
  | nil => rfl
  | cons c cs => rw [List.dropWhile_cons_of_neg (by simp [other c rfl])]

/-- There is only one text between the blank characters at the ends. -/
theorem Strips.eq_stripList {cs t : List Char} (strips : Strips cs t) : t = stripList cs := by
  obtain ⟨⟨before, after, rfl, blank⟩, first, last⟩ := strips
  have ahead : ∀ c ∈ before, isBlank c = true :=
    fun c member => blank c (List.mem_append_left after member)
  have behind : ∀ c ∈ after.reverse, isBlank c = true :=
    fun c member => blank c (List.mem_append_right before (List.mem_reverse.1 member))
  have start : (before ++ t ++ after).dropWhile isBlank = (t ++ after).dropWhile isBlank := by
    rw [List.append_assoc, List.dropWhile_append_of_pos ahead]
  rw [stripList, start, dropEndBlanks]
  cases t with
  | nil =>
    have none := @List.dropWhile_append_of_pos _ isBlank after [] fun c member =>
      behind c (List.mem_reverse.2 member)
    rw [List.append_nil] at none
    rw [List.nil_append, none]
    rfl
  | cons c t =>
    have start : (c :: t ++ after).dropWhile isBlank = c :: t ++ after := dropWhile_of_head? first
    have stop : (c :: t).reverse.dropWhile isBlank = (c :: t).reverse := by
      refine dropWhile_of_head? ?_
      rw [List.head?_reverse]
      exact last
    rw [start, List.reverse_append, List.dropWhile_append_of_pos behind, stop, List.reverse_reverse]

end SceneCourse.Text
