/-!
# White space

The characters with the Unicode property White_Space, and texts without them at either end.
-/
namespace VideoCapture.Text

/-- The Unicode property White_Space. -/
def isBlank (c : Char) : Bool :=
  let n := c.toNat
  (9 ≤ n && n ≤ 13) || n == 0x20 || n == 0x85 || n == 0xA0 || n == 0x1680 ||
    (0x2000 ≤ n && n ≤ 0x200A) || n == 0x2028 || n == 0x2029 || n == 0x202F || n == 0x205F ||
    n == 0x3000

def trimEnd (cs : List Char) : List Char := (cs.reverse.dropWhile isBlank).reverse

def trim (cs : List Char) : List Char := trimEnd (cs.dropWhile isBlank)

/-- A text before and after the first occurrence of `sep`, if there is one. -/
def splitFirst (sep : Char) : List Char → Option (List Char × List Char)
  | [] => none
  | c :: cs => if c = sep then some ([],cs) else (splitFirst sep cs).map fun p => (c :: p.1,p.2)

theorem splitFirst_eq_some_iff {sep : Char} {cs front back : List Char} :
    splitFirst sep cs = some (front,back) ↔ cs = front ++ sep :: back ∧ sep ∉ front := by
  induction cs generalizing front with
  | nil => simp [splitFirst]
  | cons c cs ih =>
    by_cases h : c = sep
    · subst h
      simp only [splitFirst,↓reduceIte,Option.some.injEq,Prod.mk.injEq]
      constructor
      · rintro ⟨rfl,rfl⟩; simp
      · rintro ⟨h,hf⟩
        cases front with
        | nil => simpa using h
        | cons d front => simp_all
    · simp only [splitFirst,h,↓reduceIte,Option.map_eq_some_iff,Prod.mk.injEq,Prod.exists]
      constructor
      · rintro ⟨f,b,hs,rfl,rfl⟩
        obtain ⟨rfl,hf⟩ := ih.1 hs
        exact ⟨rfl,by simpa [Ne.symm h] using hf⟩
      · rintro ⟨he,hf⟩
        cases front with
        | nil => simp_all
        | cons d front =>
          simp only [List.cons_append,List.cons.injEq] at he
          obtain ⟨rfl,rfl⟩ := he
          exact ⟨front,back,ih.2 ⟨rfl,fun m => hf (List.mem_cons_of_mem _ m)⟩,rfl,rfl⟩

theorem splitFirst_eq_none_iff {sep : Char} {cs : List Char} :
    splitFirst sep cs = none ↔ sep ∉ cs := by
  induction cs with
  | nil => simp [splitFirst]
  | cons c cs ih =>
    by_cases h : c = sep
    · simp [splitFirst,h]
    · simp [splitFirst,h,ih,Ne.symm h]

end VideoCapture.Text
