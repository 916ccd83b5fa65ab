import VideoCapture.Pattern.Expression
/-!
# What expressions match

Matching follows sets of places and leaves steps out that change nothing, with a bound on the number of repetitions
that depends on the length of the text. What an expression matches is said here without any of this, by where a
match begins and where it ends (`Expression.Spans`), and a repetition may be taken any number of times in a row.
Main statement: an expression matches somewhere in a text if and only if it spans a stretch of it
(`Expression.matchesIn_iff`). The bound is enough because matches never lead back: a row with more members than
the stretch that it spans is long has one that spans nothing, and this one can be left out or repeated.
-/
namespace VideoCapture.Pattern

/-- A relation a number of times in a row. -/
def Times (R : Nat → Nat → Prop) : Nat → Nat → Nat → Prop
  | 0, i, j => i = j
  | n + 1, i, j => ∃ k, R i k ∧ Times R n k j

/-- The character before a place. -/
def charBefore (cs : List Char) : Nat → Option Char
  | 0 => none
  | i + 1 => cs[i]?

/-- An expression matches a text from one place to another. A bound that is less than the least number counts as the
    least number. -/
def Expression.Spans (cs : List Char) : Expression → Nat → Nat → Prop
  | .empty, i, j => i = j
  | .text ds, i, j => ds <+: cs.drop i ∧ j = i + ds.length
  | .one set _, i, j => j = i + 1 ∧ ∃ c, cs[i]? = some c ∧ set.contains c.toNat = true
  | .look l, i, j => i = j ∧ i ≤ cs.length ∧ l.holds (charBefore cs i) cs[i]? = true
  | .sequence a b, i, j => ∃ k, a.Spans cs i k ∧ b.Spans cs k j
  | .either a b, i, j => a.Spans cs i j ∨ b.Spans cs i j
  | .repetition body least most _, i, j =>
    ∃ n, least ≤ n ∧ (∀ bound ∈ most, n ≤ max least bound) ∧ Times (body.Spans cs) n i j
  | .kept _ body, i, j => body.Spans cs i j

/-! ### Rows -/

namespace Times
variable {R : Nat → Nat → Prop} {n i j : Nat}

theorem add_iff {m : Nat} : Times R (m + n) i j ↔ ∃ k, Times R m i k ∧ Times R n k j := by
  induction m generalizing i with
  | zero => simp [Times]
  | succ m ih =>
    rw [Nat.add_right_comm]
    simp only [Times,ih]
    constructor
    · rintro ⟨k,first,l,more,rest⟩
      exact ⟨l,⟨k,first,more⟩,rest⟩
    · rintro ⟨l,⟨k,first,more⟩,rest⟩
      exact ⟨k,first,l,more,rest⟩

theorem le (forward : ∀ {i j}, R i j → i ≤ j) (row : Times R n i j) : i ≤ j := by
  induction n generalizing i with
  | zero => exact Nat.le_of_eq row
  | succ n ih =>
    obtain ⟨k,first,rest⟩ := row
    exact Nat.le_trans (forward first) (ih rest)

theorem closed (P : Nat → Prop) (step : ∀ {i j}, P i → R i j → P j) (row : Times R n i j) (member : P i) : P j := by
  induction n generalizing i with
  | zero => exact row ▸ member
  | succ n ih =>
    obtain ⟨k,first,rest⟩ := row
    exact ih rest (step member first)

theorem of_loop (loop : R i i) (n : Nat) : Times R n i i := by
  induction n with
  | zero => rfl
  | succ n ih => exact ⟨i,loop,ih⟩

/-- Only places up to the last one count. -/
theorem congr {S : Nat → Nat → Prop} {last : Nat} (same : ∀ {i j}, i ≤ last → (R i j ↔ S i j))
    (inside : ∀ {i j}, i ≤ last → R i j → j ≤ last) (within : i ≤ last) : Times R n i j ↔ Times S n i j := by
  induction n generalizing i with
  | zero => exact Iff.rfl
  | succ n ih =>
    constructor
    · rintro ⟨k,first,rest⟩
      exact ⟨k,(same within).mp first,(ih (inside within first)).mp rest⟩
    · rintro ⟨k,first,rest⟩
      have first := (same within).mpr first
      exact ⟨k,first,(ih (inside within first)).mpr rest⟩

/-- A row with more members than the stretch is long has one that leads nowhere, so it can have any number of members
    that is not too small. -/
theorem stretch (forward : ∀ {i j}, R i j → i ≤ j) (row : Times R n i j) (many : j - i < n) {m : Nat}
    (enough : j - i ≤ m) : Times R m i j := by
  induction n generalizing i m with
  | zero => omega
  | succ n ih =>
    obtain ⟨k,first,rest⟩ := row
    have onward := forward first
    have remaining := rest.le forward
    by_cases loop : k = i
    · obtain rfl := loop
      by_cases others : j - k < n
      · exact ih rest others enough
      · -- All other members lead on, so `first` is the one that is repeated.
        obtain ⟨more,rfl⟩ := Nat.exists_eq_add_of_le (show n ≤ m by omega)
        rw [Nat.add_comm]
        exact add_iff.mpr ⟨k,of_loop first more,rest⟩
    · obtain ⟨m,rfl⟩ := Nat.exists_eq_add_of_le (show 1 ≤ m by omega)
      rw [Nat.add_comm]
      exact ⟨k,first,ih rest (by omega) (by omega)⟩

/-- More members than there are places make no difference. -/
theorem min_iff (forward : ∀ {i j}, R i j → i ≤ j) {last : Nat} (inside : j ≤ last) :
    Times R (min n (last + 1)) i j ↔ Times R n i j := by
  by_cases few : n ≤ last + 1
  · rw [Nat.min_eq_left few]
  · rw [Nat.min_eq_right (by omega)]
    exact ⟨fun row => row.stretch forward (by omega) (by omega),fun row => row.stretch forward (by omega) (by omega)⟩

end Times

/-! ### Steps -/

/-- No place is beyond the last one. -/
def Within (s : Places) (last : Nat) : Prop := ∀ i, s.testBit i = true → i ≤ last

/-- A step takes places to all places that a relation leads to, and these are neither before nor beyond the last. -/
structure Follows (step : Places → Places) (R : Nat → Nat → Prop) (last : Nat) : Prop where
  image : ∀ {s}, Within s last → ∀ j, (step s).testBit j = true ↔ ∃ i, s.testBit i = true ∧ R i j
  forward : ∀ {i j}, R i j → i ≤ j
  inside : ∀ {i j}, i ≤ last → R i j → j ≤ last

namespace Follows
variable {step : Places → Places} {R : Nat → Nat → Prop} {last : Nat} (follows : Follows step R last) {s : Places}
include follows

theorem within (within : Within s last) : Within (step s) last := by
  intro j reached
  obtain ⟨i,member,leads⟩ := (follows.image within j).mp reached
  exact follows.inside (within i member) leads

theorem within_or (within : Within s last) : Within (s ||| step s) last := by
  intro j reached
  rw [Nat.testBit_or,Bool.or_eq_true] at reached
  exact reached.elim (within j) (follows.within within j)

theorem times_succ_iff (within : Within s last) (n j : Nat) :
    (∃ i, s.testBit i = true ∧ Times R (n + 1) i j) ↔ ∃ k, (step s).testBit k = true ∧ Times R n k j := by
  simp only [follows.image within,Times]
  constructor
  · rintro ⟨i,member,k,first,rest⟩
    exact ⟨k,⟨i,member,first⟩,rest⟩
  · rintro ⟨k,⟨i,member,first⟩,rest⟩
    exact ⟨i,member,k,first,rest⟩

theorem testBit_afterSteps (within : Within s last) (count j : Nat) :
    (afterSteps step count s).testBit j = true ↔ ∃ i, s.testBit i = true ∧ Times R count i j := by
  induction count generalizing s with
  | zero => simp [afterSteps,Times]
  | succ count ih =>
    rw [follows.times_succ_iff within]
    unfold afterSteps
    dsimp only
    split
    · -- The places stay the same however many steps there are.
      rename_i same
      rw [same]
      clear ih
      induction count with
      | zero => simp [Times]
      | succ count ih =>
        rw [follows.times_succ_iff within,same]
        exact ih
    · exact ih (follows.within within)

theorem testBit_withinSteps (within : Within s last) (count j : Nat) :
    (withinSteps step count s).testBit j = true ↔ ∃ n ≤ count, ∃ i, s.testBit i = true ∧ Times R n i j := by
  induction count generalizing s with
  | zero => simp [withinSteps,Times]
  | succ count ih =>
    unfold withinSteps
    dsimp only
    split
    · rename_i same
      have closed {i k : Nat} (member : s.testBit i = true) (leads : R i k) : s.testBit k = true := by
        have reached := (follows.image within k).mpr ⟨i,member,leads⟩
        rw [← same,Nat.testBit_or,reached,Bool.or_true]
      constructor
      · exact fun member => ⟨0,Nat.zero_le _,j,member,rfl⟩
      · rintro ⟨n,-,i,member,row⟩
        exact row.closed (s.testBit · = true) closed member
    · rw [ih (follows.within_or within)]
      simp only [Nat.testBit_or,Bool.or_eq_true]
      constructor
      · rintro ⟨n,few,k,member | reached,row⟩
        · exact ⟨n,by omega,k,member,row⟩
        · exact ⟨n + 1,by omega,(follows.times_succ_iff within n j).mpr ⟨k,reached,row⟩⟩
      · rintro ⟨n,few,i,member,row⟩
        cases n with
        | zero => exact ⟨0,Nat.zero_le _,i,.inl member,row⟩
        | succ n =>
          obtain ⟨k,reached,rest⟩ := (follows.times_succ_iff within n j).mp ⟨i,member,row⟩
          exact ⟨n,by omega,k,.inr reached,rest⟩

/-- Steps enough for every number of members between two bounds. -/
theorem testBit_repeated (within : Within s last) (least : Nat) (most : Option Nat) (j : Nat) :
    (withinSteps step (match most with | some most => min (most - least) (last + 1) | none => last + 1)
        (afterSteps step (min least (last + 1)) s)).testBit j = true ↔
      ∃ i, s.testBit i = true ∧ ∃ n, least ≤ n ∧ (∀ bound ∈ most, n ≤ max least bound) ∧ Times R n i j := by
  have middle : Within (afterSteps step (min least (last + 1)) s) last := by
    intro k reached
    obtain ⟨i,member,row⟩ := (follows.testBit_afterSteps within _ k).mp reached
    exact row.closed (· ≤ last) follows.inside (within i member)
  rw [follows.testBit_withinSteps middle]
  simp only [follows.testBit_afterSteps within]
  constructor
  · rintro ⟨more,few,k,⟨i,member,row⟩,rest⟩
    have inside : k ≤ last := row.closed (· ≤ last) follows.inside (within i member)
    have start := (Times.min_iff follows.forward inside).mp row
    refine ⟨i,member,least + more,Nat.le_add_right ..,?_,Times.add_iff.mpr ⟨k,start,rest⟩⟩
    rintro bound ⟨⟩
    dsimp only at few
    omega
  · rintro ⟨i,member,n,enough,bounded,row⟩
    obtain ⟨more,rfl⟩ := Nat.exists_eq_add_of_le enough
    obtain ⟨k,start,rest⟩ := Times.add_iff.mp row
    have inside : k ≤ last := start.closed (· ≤ last) follows.inside (within i member)
    have inside' : j ≤ last := rest.closed (· ≤ last) follows.inside inside
    refine ⟨min more (last + 1),?_,k,⟨i,member,(Times.min_iff follows.forward inside).mpr start⟩,
      (Times.min_iff follows.forward inside').mpr rest⟩
    cases most with
    | none => exact Nat.min_le_right ..
    | some bound =>
      have bounded := bounded bound rfl
      dsimp only
      omega

end Follows

/-! ### Places around a character -/

theorem sides_getElem? (before : Option Char) (cs : List Char) (i : Nat) :
    (sides before cs)[i]? =
      if i ≤ cs.length then some (if i = 0 then before else charBefore cs i,cs[i]?) else none := by
  induction cs generalizing before i with
  | nil => cases i <;> simp [sides]
  | cons c cs ih =>
    cases i with
    | zero => simp [sides]
    | succ i =>
      rw [sides,List.getElem?_cons_succ,ih]
      cases i <;> simp [charBefore]

namespace Expression
variable {cs : List Char}

theorem testBit_afterOne (admits : Char → Bool) (s : Places) (j : Nat) :
    (afterOne cs admits s).testBit j = true ↔
      ∃ i, s.testBit i = true ∧ j = i + 1 ∧ ∃ c, cs[i]? = some c ∧ admits c = true := by
  rw [afterOne,Nat.testBit_shiftLeft]
  cases j with
  | zero => simp
  | succ j =>
    simp only [Nat.add_sub_cancel,Nat.testBit_and,testBit_placesWhere,Bool.and_eq_true,Option.any_eq_true,
      Nat.succ_le_succ_iff,Nat.zero_le,Nat.add_right_cancel_iff,decide_true,true_and]
    constructor
    · rintro ⟨member,admitted⟩
      exact ⟨j,member,rfl,admitted⟩
    · rintro ⟨i,member,rfl,admitted⟩
      exact ⟨member,admitted⟩

theorem cons_prefix_drop_iff {d : Char} {ds : List Char} {i : Nat} :
    d :: ds <+: cs.drop i ↔ cs[i]? = some d ∧ ds <+: cs.drop (i + 1) := by
  by_cases inside : i < cs.length
  · rw [List.drop_eq_getElem_cons inside,List.cons_prefix_cons,List.getElem?_eq_getElem inside,Option.some.injEq,
      eq_comm]
  · simp [List.drop_eq_nil_of_le (Nat.le_of_not_lt inside),List.getElem?_eq_none (Nat.le_of_not_lt inside)]

theorem testBit_ends_text (ds : List Char) (s : Places) (j : Nat) :
    ((Expression.text ds).ends cs s).testBit j = true ↔
      ∃ i, s.testBit i = true ∧ (Expression.text ds).Spans cs i j := by
  rw [ends]
  induction ds generalizing s with
  | nil => simp [Spans]
  | cons d ds ih =>
    rw [List.foldl_cons,ih]
    simp only [testBit_afterOne,decide_eq_true_eq,Spans,cons_prefix_drop_iff,List.length_cons]
    constructor
    · rintro ⟨_,⟨i,member,rfl,_,first,rfl⟩,rest,rfl⟩
      exact ⟨i,member,⟨first,rest⟩,by omega⟩
    · rintro ⟨i,member,⟨first,rest⟩,rfl⟩
      exact ⟨i + 1,⟨i,member,rfl,d,first,rfl⟩,rest,by omega⟩

end Expression

/-! ### Expressions -/

namespace Expression.Spans
variable {cs : List Char} {e : Expression} {i j : Nat}

theorem le (spans : e.Spans cs i j) : i ≤ j := by
  induction e generalizing i j with
  | empty => exact Nat.le_of_eq spans
  | text ds => exact spans.2 ▸ Nat.le_add_right ..
  | one set => exact spans.1 ▸ Nat.le_add_right ..
  | look l => exact Nat.le_of_eq spans.1
  | sequence a b first second =>
    obtain ⟨k,left,right⟩ := spans
    exact Nat.le_trans (first left) (second right)
  | either a b first second => exact spans.elim first second
  | repetition body least most greedy ih =>
    obtain ⟨n,-,-,row⟩ := spans
    exact row.le ih
  | kept place body ih => exact ih spans

theorem le_length (spans : e.Spans cs i j) (inside : i ≤ cs.length) : j ≤ cs.length := by
  induction e generalizing i j with
  | empty => exact spans ▸ inside
  | text ds =>
    obtain ⟨found,rfl⟩ := spans
    have short := found.length_le
    rw [List.length_drop] at short
    omega
  | one set =>
    obtain ⟨rfl,c,found,-⟩ := spans
    exact (List.getElem?_eq_some_iff.mp found).1
  | look l => exact spans.1 ▸ inside
  | sequence a b first second =>
    obtain ⟨k,left,right⟩ := spans
    exact second right (first left inside)
  | either a b first second => exact spans.elim (first · inside) (second · inside)
  | repetition body least most greedy ih =>
    obtain ⟨n,-,-,row⟩ := spans
    exact row.closed (· ≤ cs.length) (fun inside leads => ih leads inside) inside
  | kept place body ih => exact ih spans inside

end Expression.Spans

namespace Expression
variable {cs : List Char} {s : Places}

/-- Where matching arrives is where a match ends that begins at one of the places. -/
theorem testBit_ends (e : Expression) (within : Within s cs.length) (j : Nat) :
    (e.ends cs s).testBit j = true ↔ ∃ i, s.testBit i = true ∧ e.Spans cs i j := by
  induction e generalizing s j with
  | empty => simp [ends,Spans]
  | text ds => exact testBit_ends_text ds s j
  | one set => exact testBit_afterOne _ s j
  | look l =>
    rw [ends,Nat.testBit_and,Bool.and_eq_true,testBit_placesWhere,sides_getElem?]
    constructor
    · rintro ⟨member,asked⟩
      have inside := within j member
      refine ⟨j,member,rfl,inside,?_⟩
      cases j <;> simpa [inside,charBefore] using asked
    · rintro ⟨i,member,rfl,inside,asked⟩
      refine ⟨member,?_⟩
      cases i <;> simpa [inside,charBefore] using asked
  | sequence a b first second =>
    have middle : Within (a.ends cs s) cs.length := by
      intro k reached
      obtain ⟨i,member,left⟩ := (first within k).mp reached
      exact left.le_length (within i member)
    rw [ends,second middle]
    simp only [first within,Spans]
    constructor
    · rintro ⟨k,⟨i,member,left⟩,right⟩
      exact ⟨i,member,k,left,right⟩
    · rintro ⟨i,member,k,left,right⟩
      exact ⟨k,⟨i,member,left⟩,right⟩
  | either a b first second =>
    simp only [ends,Nat.testBit_or,Bool.or_eq_true,first within,second within,Spans,← exists_or,← and_or_left]
  | repetition body least most greedy ih =>
    have follows : Follows (fun t => body.ends cs t) (body.Spans cs) cs.length :=
      ⟨fun within j => ih within j,Spans.le,fun inside spans => spans.le_length inside⟩
    exact follows.testBit_repeated within least most j
  | kept place body ih => exact ih within j

/-- An expression matches somewhere in a text if and only if it matches the text from one of its places to another. -/
theorem matchesIn_iff (e : Expression) (text : String) :
    e.matchesIn text = true ↔ ∃ i ≤ text.length, ∃ j, e.Spans text.toList i j := by
  have everywhere (i : Nat) : (Nat.pow 2 (text.length + 1) - 1).testBit i = true ↔ i ≤ text.length := by
    rw [show Nat.pow 2 (text.length + 1) = 2 ^ (text.length + 1) from rfl,Nat.testBit_two_pow_sub_one,decide_eq_true_eq]
    omega
  have within : Within (Nat.pow 2 (text.length + 1) - 1) text.toList.length :=
    fun i member => String.length_toList ▸ (everywhere i).mp member
  rw [matchesIn,decide_eq_true_eq]
  constructor
  · intro reached
    obtain ⟨j,reached⟩ := Nat.exists_testBit_of_ne_zero reached
    obtain ⟨i,member,spans⟩ := (e.testBit_ends within j).mp reached
    exact ⟨i,(everywhere i).mp member,j,spans⟩
  · rintro ⟨i,inside,j,spans⟩ nowhere
    have reached := (e.testBit_ends within j).mpr ⟨i,(everywhere i).mpr inside,spans⟩
    rw [nowhere,Nat.zero_testBit] at reached
    cases reached

end Expression
end VideoCapture.Pattern
