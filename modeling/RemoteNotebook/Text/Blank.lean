/-!
White space at the ends of a text and between its words. A blank is a character with the
Unicode property White_Space; every trimming and word splitting of the library goes through it.
-/

namespace RemoteNotebook.Text

/-- The characters with the property White_Space. -/
def isBlank (c : Char) : Bool :=
  let n := c.toNat
  (9 ≤ n && n ≤ 13) || n == 0x20 || n == 0x85 || n == 0xA0 || n == 0x1680 ||
    (0x2000 ≤ n && n ≤ 0x200A) || n == 0x2028 || n == 0x2029 || n == 0x202F || n == 0x205F ||
    n == 0x3000

def trimStart (cs : List Char) : List Char := cs.dropWhile isBlank

def trimEnd (cs : List Char) : List Char := (cs.reverse.dropWhile isBlank).reverse

def trimBlanks (cs : List Char) : List Char := trimEnd (trimStart cs)

def trim (s : String) : String := String.ofList (trimBlanks s.toList)

/-- The text up to its first blank, and the trimmed rest. -/
def splitWord (cs : List Char) : List Char × List Char :=
  (cs.takeWhile (fun c => !isBlank c), trimBlanks (cs.dropWhile (fun c => !isBlank c)))

@[simp] theorem trimBlanks_nil : trimBlanks [] = [] := rfl

theorem trimStart_eq_self {cs : List Char} (h : ∀ c ∈ cs, isBlank c = false) :
    trimStart cs = cs := by
  cases cs with
  | nil => rfl
  | cons c cs => exact List.dropWhile_cons_of_neg (by simp [h c])

theorem trimBlanks_eq_self {cs : List Char} (h : ∀ c ∈ cs, isBlank c = false) :
    trimBlanks cs = cs := by
  have hr : ∀ c ∈ cs.reverse, isBlank c = false := fun c hc => h c (List.mem_reverse.mp hc)
  rw [trimBlanks, trimStart_eq_self h, trimEnd]
  exact (congrArg List.reverse (trimStart_eq_self hr)).trans (List.reverse_reverse cs)

end RemoteNotebook.Text
