import VideoCapture.Pattern.Meaning
import VideoCapture.Proofs.Outcomes
import VideoCapture.Proofs.Pattern.Spans
/-!
# What written patterns match

A pattern is compiled into an expression that is simplified on the way: texts are joined, alternatives become sets,
what they have in common at their beginning is written once, and sets are kept as the places where membership
changes. Here each part of a pattern as it is written matches by itself, with the flags that hold where it stands
(`Term.Spans`), and a set has the members that its parts say (`SetTerm.Has`). Main statement: a pattern that
compiles matches somewhere in a text if and only if the pattern as written does, and the machines that search for
it are not too large (`compile_matches`).
-/
namespace VideoCapture.Pattern

/-! ### Members of sets -/

/-- Two code points are the two cases of an ASCII letter. -/
def OtherCase (n k : Nat) : Prop := ∃ letter < 26, n = 0x41 + letter ∧ k = 0x61 + letter ∨
  n = 0x61 + letter ∧ k = 0x41 + letter

/-- What an operation makes of two memberships. -/
def SetOperation.Holds : SetOperation → Prop → Prop → Prop
  | intersection, p, q => p ∧ q
  | difference, p, q => p ∧ ¬ q
  | symmetricDifference, p, q => p ∧ ¬ q ∨ q ∧ ¬ p

namespace Mode
variable (m : Mode)

/-- A set with the other cases of its members, where cases do not count and sets are of octets. Where they are of
    characters, there is no set with members told one by one if cases do not count. -/
def Cased (P : Nat → Prop) (n : Nat) : Prop :=
  P n ∨ m.anyCase = true ∧ m.unicode = false ∧ ∃ k, OtherCase n k ∧ P k

/-- A set with other cases, or all that there is but for these. -/
def Complete (negated : Bool) (P : Nat → Prop) (n : Nat) : Prop :=
  if negated then n ≤ (if m.unicode then 0x10FFFF else 0xFF) ∧ ¬ m.Cased P n else m.Cased P n

end Mode

mutual

/-- A code point belongs to a part of a set. -/
def SetTerm.Has (m : Mode) : SetTerm → Nat → Prop
  | .member (.literal l), n => n = l.char.toNat
  | .member (.shorthand _ set negated), n => n ≤ 0xFF ∧ set.members.contains n = !negated
  | .member (.property _ _), _ => False
  | .range first last, n => first.char.toNat ≤ n ∧ n ≤ last.char.toNat
  | .named _ set negated, n => m.Complete negated (fun n => set.members.contains n = true) n
  | .union _ parts, n => SetTerm.AnyHas m parts n
  | .combined operation left right, n => operation.Holds (m.Cased (left.Has m) n) (m.Cased (right.Has m) n)
  | .bracketed _ negated content, n => m.Complete negated (content.Has m) n

/-- A code point belongs to one of several parts of a set. -/
def SetTerm.AnyHas (m : Mode) : List SetTerm → Nat → Prop
  | [], _ => False
  | part :: parts, n => part.Has m n ∨ SetTerm.AnyHas m parts n

end

theorem otherCase?_eq_some_iff {n k : Nat} : CharSet.otherCase? n = some k ↔ OtherCase n k := by
  unfold CharSet.otherCase? OtherCase
  constructor
  · intro other
    split at other
    · exact ⟨n - 0x41,by omega,.inl (by simp only [Option.some.injEq] at other; omega)⟩
    · split at other
      · exact ⟨n - 0x61,by omega,.inr (by simp only [Option.some.injEq] at other; omega)⟩
      · cases other
  · rintro ⟨letter,few,⟨rfl,rfl⟩ | ⟨rfl,rfl⟩⟩
    · rw [if_pos (by omega)]
      exact congrArg some (by omega)
    · rw [if_neg (by omega),if_pos (by omega)]
      exact congrArg some (by omega)

theorem SetOperation.contains_apply (operation : SetOperation) (a b : CharSet) (n : Nat) :
    (operation.apply a b).contains n = true ↔ operation.Holds (a.contains n = true) (b.contains n = true) := by
  cases operation <;> simp only [apply,Holds,CharSet.contains_inter,CharSet.contains_diff,CharSet.contains_symmDiff] <;>
    cases a.contains n <;> cases b.contains n <;> simp

theorem Mode.contains_everything (m : Mode) (n : Nat) :
    m.everything.contains n = true ↔ n ≤ if m.unicode then 0x10FFFF else 0xFF := by
  unfold Mode.everything
  split <;> simp [CharSet.all,CharSet.octets]

theorem whole_eq_ok {m : Mode} {span : Span} {set found : CharSet} (accepted : whole m span set = .ok found) :
    found = set := by
  unfold whole at accepted
  split at accepted
  · exact (Except.ok.inj accepted).symm
  · cases accepted

theorem contains_bothCases_iff (set : CharSet) (n : Nat) :
    set.bothCases.contains n = true ↔ set.contains n = true ∨ ∃ k, OtherCase n k ∧ set.contains k = true := by
  rw [CharSet.contains_bothCases,Bool.or_eq_true,Option.any_eq_true]
  simp only [otherCase?_eq_some_iff]

namespace Mode
variable {m : Mode} {P : Nat → Prop} {n : Nat}

theorem cased_of_unicode (unicode : m.unicode = true) : m.Cased P n ↔ P n := by
  simp [Cased,unicode]

theorem cased_of_cases (cases : m.anyCase = false) : m.Cased P n ↔ P n := by
  simp [Cased,cases]

theorem cased_of_octets (anyCase : m.anyCase = true) (octets : m.unicode = false) :
    m.Cased P n ↔ P n ∨ ∃ k, OtherCase n k ∧ P k := by
  simp [Cased,anyCase,octets]

end Mode

namespace PartialSet
variable {m : Mode} {span : Span} {s : PartialSet}

theorem contains_closed {set : CharSet} (accepted : s.closed m span = .ok set) (n : Nat) :
    set.contains n = true ↔ m.Cased (fun n => s.members.contains n = true) n := by
  unfold closed at accepted
  cases cases : m.anyCase with
  | false =>
    rw [cases] at accepted
    obtain rfl := Except.ok.inj accepted
    rw [Mode.cased_of_cases cases]
  | true =>
    cases unicode : m.unicode with
    | false =>
      rw [cases,unicode] at accepted
      obtain rfl := Except.ok.inj accepted
      rw [Mode.cased_of_octets cases unicode,contains_bothCases_iff]
    | true =>
      rw [cases,unicode] at accepted
      cases bare : s.bare with
      | true => simp [bare,refuse] at accepted
      | false =>
        rw [bare] at accepted
        obtain rfl := Except.ok.inj accepted
        rw [Mode.cased_of_unicode unicode]

theorem contains_complete {negated : Bool} {found : PartialSet} (accepted : complete m span negated s = .ok found)
    (n : Nat) :
    found.members.contains n = true ↔ m.Complete negated (fun n => s.members.contains n = true) n := by
  simp only [complete,bind_eq_ok_iff,pure,Except.pure,Except.ok.injEq] at accepted
  obtain ⟨set,closed,whole,allowed,rfl⟩ := accepted
  obtain rfl := whole_eq_ok allowed
  rw [Mode.Complete]
  cases negated with
  | false => exact contains_closed closed n
  | true =>
    rw [if_pos rfl,if_pos rfl,CharSet.contains_diff,Bool.and_eq_true,m.contains_everything,Bool.not_eq_true',
      ← contains_closed closed n,Bool.not_eq_true]

end PartialSet

theorem Literal.member_eq_ok {m : Mode} {l : Literal} {n : Nat} (accepted : l.member m = .ok n) : n = l.char.toNat := by
  unfold Literal.member at accepted
  split at accepted
  · exact (Except.ok.inj accepted).symm
  · cases accepted

theorem Shorthand.le_of_contains (set : Shorthand) {n : Nat} (member : set.members.contains n = true) : n ≤ 0xFF := by
  cases set <;> simp [members,AsciiSet.members,CharSet.contains_ofRanges] at member <;> omega

theorem Shorthand.contains_meaning {m : Mode} {span : Span} {set : Shorthand} {negated : Bool} {found : CharSet}
    (accepted : set.meaning m span negated = .ok found) (n : Nat) :
    found.contains n = true ↔ n ≤ 0xFF ∧ set.members.contains n = !negated := by
  unfold Shorthand.meaning at accepted
  split at accepted
  · cases accepted
  · obtain rfl := whole_eq_ok accepted
    cases negated with
    | false => exact ⟨fun member => ⟨set.le_of_contains member,member⟩,And.right⟩
    | true => simp [CharSet.octets]

mutual

/-- A set has the members that its parts say. -/
theorem SetTerm.contains_meaning {m : Mode} (t : SetTerm) {s : PartialSet} (accepted : t.meaning m = .ok s) (n : Nat) :
    s.members.contains n = true ↔ t.Has m n := by
  match t with
  | .member (.literal l) =>
    simp only [SetTerm.meaning,bind_eq_ok_iff,pure,Except.pure,Except.ok.injEq] at accepted
    obtain ⟨k,read,rfl⟩ := accepted
    obtain rfl := l.member_eq_ok read
    simp only [CharSet.contains_range,SetTerm.Has,Bool.and_eq_true,decide_eq_true_eq]
    omega
  | .member (.shorthand span set negated) =>
    simp only [SetTerm.meaning,bind_eq_ok_iff,pure,Except.pure,Except.ok.injEq] at accepted
    obtain ⟨found,read,rfl⟩ := accepted
    exact Shorthand.contains_meaning read n
  | .member (.property span name) => cases accepted
  | .range first last =>
    simp only [SetTerm.meaning,bind_eq_ok_iff,pure,Except.pure,Except.ok.injEq] at accepted
    obtain ⟨low,readFirst,high,readLast,rfl⟩ := accepted
    obtain rfl := first.member_eq_ok readFirst
    obtain rfl := last.member_eq_ok readLast
    simp only [CharSet.contains_range,SetTerm.Has,Bool.and_eq_true,decide_eq_true_eq]
  | .named span set negated => exact PartialSet.contains_complete accepted n
  | .union span parts =>
    rw [SetTerm.meaning] at accepted
    rw [SetTerm.contains_unionMeaning parts accepted n,SetTerm.Has]
    simp
  | .combined operation left right =>
    simp only [SetTerm.meaning,bind_eq_ok_iff,pure,Except.pure,Except.ok.injEq] at accepted
    obtain ⟨first,readFirst,second,readSecond,b,closed',a,closed,rfl⟩ := accepted
    rw [operation.contains_apply,PartialSet.contains_closed closed,PartialSet.contains_closed closed',SetTerm.Has]
    simp only [SetTerm.contains_meaning left readFirst,SetTerm.contains_meaning right readSecond]
  | .bracketed span negated content =>
    simp only [SetTerm.meaning,bind_eq_ok_iff] at accepted
    obtain ⟨inner,read,complete⟩ := accepted
    rw [PartialSet.contains_complete complete,SetTerm.Has]
    simp only [SetTerm.contains_meaning content read]

theorem SetTerm.contains_unionMeaning {m : Mode} (parts : List SetTerm) {s found : PartialSet}
    (accepted : SetTerm.unionMeaning m s parts = .ok found) (n : Nat) :
    found.members.contains n = true ↔ s.members.contains n = true ∨ SetTerm.AnyHas m parts n := by
  match parts with
  | [] =>
    obtain rfl := Except.ok.inj accepted
    simp [SetTerm.AnyHas]
  | part :: parts =>
    simp only [SetTerm.unionMeaning,bind_eq_ok_iff] at accepted
    obtain ⟨t,read,rest⟩ := accepted
    rw [SetTerm.contains_unionMeaning parts rest n,PartialSet.union,CharSet.contains_union,Bool.or_eq_true,
      SetTerm.contains_meaning part read n,SetTerm.AnyHas,or_assoc]

end

/-! ### Parts of patterns -/

/-- A character with some property, from the place before it to the one after. -/
def OneChar (cs : List Char) (P : Nat → Prop) (i j : Nat) : Prop := j = i + 1 ∧ ∃ c, cs[i]? = some c ∧ P c.toNat

mutual

/-- The flags that hold after a part of a pattern. Those that a group sets hold in the group only. -/
def Term.modeAfter (m : Mode) : Term → Mode
  | .settings _ flags => m.after flags
  | .repetition _ body _ _ _ => body.modeAfter m
  | .sequence _ parts | .alternatives _ parts => Term.modeAfterAll m parts
  | .empty _ | .member _ | .dot _ | .assertion _ _ | .set _ | .group _ _ _ _ => m

/-- The flags that hold after several parts. -/
def Term.modeAfterAll (m : Mode) : List Term → Mode
  | [] => m
  | part :: parts => Term.modeAfterAll (part.modeAfter m) parts

end

mutual

/-- A part of a pattern matches a text from one place to another, with the flags that hold before it. A bound that is
    less than the least number counts as the least number. -/
def Term.Spans (cs : List Char) (m : Mode) : Term → Nat → Nat → Prop
  | .empty _, i, j | .settings _ _, i, j => i = j
  | .member (.literal l), i, j => OneChar cs (m.Cased (· = l.char.toNat)) i j
  | .member (.shorthand span name negated), i, j =>
    OneChar cs (SetTerm.Has m (.member (.shorthand span name negated))) i j
  | .member (.property _ _), _, _ => False
  | .dot _, i, j => OneChar cs (fun n => m.dotTakesAll = true ∨ n ≠ 0x0A ∧ (m.carriageReturns = true → n ≠ 0x0D)) i j
  | .assertion _ a, i, j => i = j ∧ i ≤ cs.length ∧ (m.look a).holds (charBefore cs i) cs[i]? = true
  | .set content, i, j => OneChar cs (content.Has m) i j
  | .repetition _ body least most _, i, j =>
    ∃ n, least ≤ n ∧ (∀ bound ∈ most, n ≤ max least bound) ∧ Times (body.Spans cs m) n i j
  | .group _ _ flags body, i, j => body.Spans cs (m.after flags) i j
  | .sequence _ parts, i, j => Term.SpansInOrder cs m parts i j
  | .alternatives _ parts, i, j => Term.SpansAny cs m parts i j

/-- Several parts match one after the other. -/
def Term.SpansInOrder (cs : List Char) (m : Mode) : List Term → Nat → Nat → Prop
  | [], i, j => i = j
  | part :: parts, i, j => ∃ k, part.Spans cs m i k ∧ Term.SpansInOrder cs (part.modeAfter m) parts k j

/-- One of several parts matches. What flags one of them sets hold in those after it. -/
def Term.SpansAny (cs : List Char) (m : Mode) : List Term → Nat → Nat → Prop
  | [], _, _ => False
  | part :: parts, i, j => part.Spans cs m i j ∨ Term.SpansAny cs (part.modeAfter m) parts i j

end

/-! ### Simplified expressions -/

namespace Expression
variable {cs : List Char} {i j : Nat}

/-- Expressions that take all places to the same ones match the same stretches. -/
theorem spans_congr {a b : Expression} (same : ∀ s, a.ends cs s = b.ends cs s) (inside : i ≤ cs.length) :
    a.Spans cs i j ↔ b.Spans cs i j := by
  have single (k : Nat) : (1 <<< i).testBit k = true ↔ k = i := by
    rw [Nat.one_shiftLeft,Nat.testBit_two_pow,decide_eq_true_eq,eq_comm]
  have within : Within (1 <<< i) cs.length := fun k member => (single k).mp member ▸ inside
  have reached (e : Expression) : (e.ends cs (1 <<< i)).testBit j = true ↔ e.Spans cs i j := by
    rw [e.testBit_ends within]
    simp only [single]
    exact ⟨fun ⟨_,same,spans⟩ => same ▸ spans,fun spans => ⟨i,rfl,spans⟩⟩
  rw [← reached a,← reached b,same]

/-- A set matches the characters that it has, so only these need to be known. -/
theorem spans_ofSet {set : CharSet} {P : Nat → Prop} (members : ∀ c : Char, set.contains c.toNat = true ↔ P c.toNat)
    (ofOctets : Bool) (inside : i ≤ cs.length) : (ofSet set ofOctets).Spans cs i j ↔ OneChar cs P i j := by
  rw [spans_congr (b := .one set ofOctets) (ends_ofSet cs set ofOctets) inside,Spans,OneChar]
  simp only [members]

theorem spans_times (body : Expression) (least : Nat) (most : Option Nat) (greedy : Bool) (inside : i ≤ cs.length) :
    (times body least most greedy).Spans cs i j ↔ (repetition body least most greedy).Spans cs i j :=
  spans_congr (ends_times cs body least most greedy) inside

theorem spans_inOrder_cons (e : Expression) (es : List Expression) (inside : i ≤ cs.length) :
    (inOrder (e :: es)).Spans cs i j ↔ ∃ k, e.Spans cs i k ∧ (inOrder es).Spans cs k j :=
  spans_congr (b := .sequence e (inOrder es)) (fun s => by simp [ends_inOrder,ends]) inside

theorem spans_choice_nil (inside : i ≤ cs.length) : ¬ (choice []).Spans cs i j := by
  intro spans
  have same (s : Places) : (choice []).ends cs s = never.ends cs s := by
    simp [ends_choice,endsOfAny,never,ends,afterOne_false]
  have nothing := (spans_congr same inside).mp spans
  obtain ⟨-,c,-,member⟩ := nothing
  simp at member

theorem spans_choice_cons (e : Expression) (es : List Expression) (inside : i ≤ cs.length) :
    (choice (e :: es)).Spans cs i j ↔ e.Spans cs i j ∨ (choice es).Spans cs i j :=
  spans_congr (b := .either e (choice es)) (fun s => by simp [ends_choice,endsOfAny,ends]) inside

end Expression

theorem Literal.contains_meaning {m : Mode} {l : Literal} {set : CharSet} (accepted : l.meaning m = .ok set) (n : Nat) :
    set.contains n = true ↔ m.Cased (· = l.char.toNat) n := by
  have single (n : Nat) : (CharSet.range l.char.toNat l.char.toNat).contains n = true ↔ n = l.char.toNat := by
    simp only [CharSet.contains_range,Bool.and_eq_true,decide_eq_true_eq]
    omega
  unfold meaning at accepted
  cases cases : m.anyCase with
  | false =>
    rw [Mode.cased_of_cases cases,← single n]
    simp only [cases] at accepted
    split at accepted
    · exact Except.ok.inj accepted ▸ Iff.rfl
    · split at accepted
      · cases accepted
      · exact Except.ok.inj accepted ▸ Iff.rfl
  | true =>
    cases unicode : m.unicode with
    | true => simp [cases,unicode,refuse] at accepted
    | false =>
      simp only [cases,unicode,Bool.false_eq_true,↓reduceIte] at accepted
      split at accepted
      · cases accepted
      · obtain rfl := Except.ok.inj accepted
        rw [Mode.cased_of_octets cases unicode,contains_bothCases_iff]
        simp only [single]

theorem Mode.contains_dot {m : Mode} {span : Span} {set : CharSet} (accepted : m.dot span = .ok set) (c : Char) :
    set.contains c.toNat = true ↔
      m.dotTakesAll = true ∨ c.toNat ≠ 0x0A ∧ (m.carriageReturns = true → c.toNat ≠ 0x0D) := by
  have known : CharSet.all.contains c.toNat = true := by
    have characters := CharSet.contains_characters c
    simp [CharSet.characters,CharSet.contains_ofRanges] at characters
    simp only [CharSet.all,CharSet.contains_range,Bool.and_eq_true,decide_eq_true_eq]
    omega
  have butFor (except : CharSet) :
      (CharSet.all.diff except).contains c.toNat = true ↔ ¬ except.contains c.toNat = true := by
    rw [CharSet.contains_diff,known,Bool.true_and,Bool.not_eq_true',Bool.not_eq_true]
  unfold dot at accepted
  split at accepted
  · cases accepted
  · split at accepted
    · rename_i takesAll
      obtain rfl := Except.ok.inj accepted
      exact iff_of_true known (.inl takesAll)
    · rename_i stops
      split at accepted
      · rename_i returns
        obtain rfl := Except.ok.inj accepted
        rw [butFor,CharSet.contains_ofRanges]
        simp only [stops,returns,List.any_cons,List.any_nil,Bool.or_false,Bool.or_eq_true,Bool.and_eq_true,
          decide_eq_true_eq,Bool.false_eq_true,false_or,true_imp_iff]
        omega
      · rename_i returns
        obtain rfl := Except.ok.inj accepted
        rw [butFor,CharSet.contains_range]
        simp only [stops,returns,Bool.and_eq_true,decide_eq_true_eq,Bool.false_eq_true,false_or,
          false_imp_iff,and_true]
        omega

mutual

/-- A part of a pattern and its expression match the same stretches, and the flags after it are those that it sets. -/
theorem Term.spans_meaning (cs : List Char) {m m' : Mode} (t : Term) {e : Expression}
    (compiled : t.meaning m = .ok (e,m')) :
    m' = t.modeAfter m ∧ ∀ {i j}, i ≤ cs.length → (e.Spans cs i j ↔ t.Spans cs m i j) := by
  match t with
  | .empty span | .settings span flags =>
    obtain ⟨rfl,rfl⟩ := Prod.mk.inj (Except.ok.inj compiled)
    exact ⟨rfl,fun _ => Iff.rfl⟩
  | .member (.literal l) =>
    simp only [Term.meaning,bind_eq_ok_iff,pure,Except.pure,Except.ok.injEq,Prod.mk.injEq] at compiled
    obtain ⟨set,read,rfl,rfl⟩ := compiled
    exact ⟨rfl,Expression.spans_ofSet (fun c => Literal.contains_meaning read c.toNat) _⟩
  | .member (.shorthand span name negated) =>
    simp only [Term.meaning,bind_eq_ok_iff,pure,Except.pure,Except.ok.injEq,Prod.mk.injEq] at compiled
    obtain ⟨set,read,rfl,rfl⟩ := compiled
    refine ⟨rfl,Expression.spans_ofSet (fun c => ?_) _⟩
    rw [Shorthand.contains_meaning read,SetTerm.Has]
  | .member (.property span name) => cases compiled
  | .dot span =>
    simp only [Term.meaning,bind_eq_ok_iff,pure,Except.pure,Except.ok.injEq,Prod.mk.injEq] at compiled
    obtain ⟨set,read,rfl,rfl⟩ := compiled
    exact ⟨rfl,Expression.spans_ofSet (Mode.contains_dot read) _⟩
  | .assertion span a =>
    obtain ⟨rfl,rfl⟩ := Prod.mk.inj (Except.ok.inj compiled)
    exact ⟨rfl,fun _ => Iff.rfl⟩
  | .set content =>
    simp only [Term.meaning,bind_eq_ok_iff,pure,Except.pure,Except.ok.injEq,Prod.mk.injEq] at compiled
    obtain ⟨found,read,rfl,rfl⟩ := compiled
    exact ⟨rfl,Expression.spans_ofSet (fun c => content.contains_meaning read c.toNat) _⟩
  | .repetition span body least most questioned =>
    simp only [Term.meaning,bind_eq_ok_iff,pure,Except.pure,Except.ok.injEq,Prod.mk.injEq] at compiled
    obtain ⟨⟨b,after⟩,read,rfl,rfl⟩ := compiled
    obtain ⟨flags,same⟩ := Term.spans_meaning cs body read
    refine ⟨flags,fun inside => ?_⟩
    rw [Expression.spans_times b least most _ inside,Expression.Spans,Term.Spans]
    simp only [Times.congr same (fun within spans => spans.le_length within) inside]
  | .group span isKept flags body =>
    simp only [Term.meaning,bind_eq_ok_iff,pure,Except.pure,Except.ok.injEq,Prod.mk.injEq] at compiled
    obtain ⟨⟨b,after⟩,read,rfl,rfl⟩ := compiled
    obtain ⟨-,same⟩ := Term.spans_meaning cs body read
    refine ⟨rfl,fun inside => ?_⟩
    cases isKept <;> exact same inside
  | .sequence span parts =>
    simp only [Term.meaning,bind_eq_ok_iff,pure,Except.pure,Except.ok.injEq,Prod.mk.injEq] at compiled
    obtain ⟨⟨es,after⟩,read,rfl,rfl⟩ := compiled
    obtain ⟨flags,same⟩ := Term.spans_meanings cs parts read
    exact ⟨flags,fun inside => (same inside).1⟩
  | .alternatives span parts =>
    simp only [Term.meaning,bind_eq_ok_iff,pure,Except.pure,Except.ok.injEq,Prod.mk.injEq] at compiled
    obtain ⟨⟨es,after⟩,read,rfl,rfl⟩ := compiled
    obtain ⟨flags,same⟩ := Term.spans_meanings cs parts read
    exact ⟨flags,fun inside => (same inside).2⟩

theorem Term.spans_meanings (cs : List Char) {m m' : Mode} (parts : List Term) {es : List Expression}
    (compiled : Term.meanings m parts = .ok (es,m')) :
    m' = Term.modeAfterAll m parts ∧ ∀ {i j}, i ≤ cs.length →
      ((Expression.inOrder es).Spans cs i j ↔ Term.SpansInOrder cs m parts i j) ∧
        ((Expression.choice es).Spans cs i j ↔ Term.SpansAny cs m parts i j) := by
  match parts with
  | [] =>
    obtain ⟨rfl,rfl⟩ := Prod.mk.inj (Except.ok.inj compiled)
    exact ⟨rfl,fun inside => ⟨Iff.rfl,iff_of_false (Expression.spans_choice_nil inside) id⟩⟩
  | part :: parts =>
    simp only [Term.meanings,bind_eq_ok_iff,pure,Except.pure,Except.ok.injEq,Prod.mk.injEq] at compiled
    obtain ⟨⟨e,between⟩,read,⟨es,after⟩,readRest,rfl,rfl⟩ := compiled
    obtain ⟨rfl,same⟩ := Term.spans_meaning cs part read
    obtain ⟨flags,rest⟩ := Term.spans_meanings cs parts readRest
    refine ⟨flags,fun {i j} inside => ⟨?_,?_⟩⟩
    · rw [Expression.spans_inOrder_cons e es inside,Term.SpansInOrder]
      constructor
      · rintro ⟨k,first,others⟩
        exact ⟨k,(same inside).mp first,((rest (first.le_length inside)).1).mp others⟩
      · rintro ⟨k,first,others⟩
        have first := (same inside).mpr first
        exact ⟨k,first,((rest (first.le_length inside)).1).mpr others⟩
    · rw [Expression.spans_choice_cons e es inside,Term.SpansAny,same inside,(rest inside).2]

end

/-- A pattern compiles into the expression of what was read. Unless it is searched for as words, it asks for no edges of
    words that cannot be found, and there is a machine for each direction. -/
theorem of_compile {pattern : String} {e : Expression} (compiled : compile pattern = .ok e) :
    (∃ t after, Term.read pattern = .ok t ∧ t.meaning .initial = .ok (e,after)) ∧
      (e.searchedAsWords = false → e.asksAllScripts = false ∧ ∀ d, (e.machine? d).isSome = true) := by
  unfold compile at compiled
  split at compiled
  · cases compiled
  rename_i e' after read
  obtain ⟨t,read,meaning⟩ := bind_eq_ok_iff.mp read
  split at compiled
  · rename_i words
    obtain rfl := Except.ok.inj compiled
    exact ⟨⟨t,after,read,meaning⟩,fun searched => absurd words (Bool.eq_false_iff.mp searched)⟩
  split at compiled
  · cases compiled
  rename_i forwards
  split at compiled
  · cases compiled
  rename_i scripts
  split at compiled
  · cases compiled
  rename_i backwards
  obtain rfl := Except.ok.inj compiled
  refine ⟨⟨t,after,read,meaning⟩,fun _ => ⟨Bool.eq_false_iff.mpr scripts,fun d => ?_⟩⟩
  rw [Bool.not_eq_true,Option.isNone_eq_false_iff] at forwards backwards
  cases d with
  | forwards => exact forwards
  | backwards => exact backwards

/-- A pattern that compiles was read, and it matches somewhere in a text if and only if the pattern as it is written
    matches the text from one of its places to another. Unless it is searched for as words, it asks for no edges of
    words that cannot be found, and there is a machine for each direction that is not too large. -/
theorem compile_matches {pattern : String} {e : Expression} (compiled : compile pattern = .ok e) :
    ∃ t, Term.read pattern = .ok t ∧
      (∀ text, e.matchesIn text = true ↔ ∃ i ≤ text.length, ∃ j, t.Spans text.toList .initial i j) ∧
      (e.searchedAsWords = false → e.asksAllScripts = false ∧
        ∀ d, ∃ machine, e.machine? d = some machine ∧ machine.size ≤ largest) := by
  obtain ⟨⟨t,after,read,meaning⟩,built⟩ := of_compile compiled
  refine ⟨t,read,fun text => ?_,fun searched => ?_⟩
  · rw [e.matchesIn_iff]
    refine exists_congr fun i => and_congr_right fun inside => exists_congr fun j => ?_
    exact (Term.spans_meaning text.toList t meaning).2 (String.length_toList ▸ inside)
  · obtain ⟨noScripts,machines⟩ := built searched
    refine ⟨noScripts,fun d => ?_⟩
    obtain ⟨machine,found⟩ := Option.isSome_iff_exists.mp (machines d)
    exact ⟨machine,found,Expression.size_le_of_machine? found⟩

end VideoCapture.Pattern
