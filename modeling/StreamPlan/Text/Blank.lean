/-!
# Blank characters

The white space that surrounds names, keys and values, and trimming by it. The set is the Unicode
property `White_Space`, so a no-break space is blank and a zero-width space is not.
-/

namespace StreamPlan.Text

/-- Whether a character is white space. -/
def isBlank (c : Char) : Bool :=
  let n := c.toNat
  (0x9 ≤ n && n ≤ 0xd) || n == 0x20 || n == 0x85 || n == 0xa0 || n == 0x1680 ||
    (0x2000 ≤ n && n ≤ 0x200a) || n == 0x2028 || n == 0x2029 || n == 0x202f || n == 0x205f ||
    n == 0x3000

/-- The characters without the blanks at either end. -/
def trimChars (cs : List Char) : List Char :=
  ((cs.dropWhile isBlank).reverse.dropWhile isBlank).reverse

/-- The text without the blanks at either end. -/
def trim (s : String) : String := String.ofList (trimChars s.toList)

/-- Whether a text has no character besides blanks. -/
def isBlankText (s : String) : Bool := s.toList.all isBlank

theorem toList_trim (s : String) : (trim s).toList = trimChars s.toList := by
  simp [trim]

theorem dropWhile_isBlank_eq_nil_iff (cs : List Char) :
    cs.dropWhile isBlank = [] ↔ cs.all isBlank = true := by
  induction cs with
  | nil => simp
  | cons c cs ih => by_cases h : isBlank c = true <;> simp_all

/-- Trimming leaves nothing exactly when every character is blank. -/
theorem trimChars_eq_nil_iff (cs : List Char) : trimChars cs = [] ↔ cs.all isBlank = true := by
  constructor
  · intro h
    have h' : (cs.dropWhile isBlank).reverse.dropWhile isBlank = [] := by
      simpa [trimChars] using h
    have hall := (dropWhile_isBlank_eq_nil_iff _).1 h'
    rw [← dropWhile_isBlank_eq_nil_iff]
    cases hd : cs.dropWhile isBlank with
    | nil => rfl
    | cons c r =>
      have hc : isBlank c = false := by
        have := List.head_dropWhile_not (p := isBlank) (l := cs) (by simp [hd])
        simpa [hd] using this
      simp [hd, hc] at hall
  · intro h
    simp [trimChars, (dropWhile_isBlank_eq_nil_iff cs).2 h]

end StreamPlan.Text
