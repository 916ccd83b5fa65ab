import Mathlib.Data.Nat.Bitwise
import VideoCapture.Proofs.Capture.Decisions
import VideoCapture.Proofs.Capture.Ledger
import VideoCapture.Proofs.Selection.Enumeration
/-!
# Which devices are found

What comes of a look at a candidate is a `Look`; what is seen of it and whether it finds a device are read off it, and
a search is one look after the other at all candidates (`Discovered`). Main statement: from every world, the devices
that are found are those whose own abilities include capturing video, in the order of the candidates; no device is
open when another one is opened or when the search is over; and of the settings nothing changes but a device that they
did not name (`World.devices_discovered`).
-/
namespace VideoCapture
variable {ω : Type} {world : World ω}

open Act

/-! ### Looks at candidates -/

/-- Whether a node captures video, which is the lowest bit of its abilities. The abilities of the node itself count if
    the highest bit of those of the whole device says that they are given. -/
def Capability.captures (c : Capability) : Bool :=
  if c.capabilities.toNat.testBit 31 then c.deviceCaps.toNat.testBit 0 else c.capabilities.toNat.testBit 0

/-- What comes of a look at a candidate. -/
inductive Look
  /-- It does not open. -/
  | refused (path : String) (fault : Fault)
  /-- It opens under a number and says what it is, or fails to. -/
  | answered (path : String) (number : Nat) (answer : Except Fault Capability)

namespace Look

/-- The candidate that is looked at. -/
def path : Look → String
  | refused path _ | answered path _ _ => path

/-- What is seen of a look. -/
def seen : Look → History
  | refused path fault => [.refused path .probe fault]
  | answered path number answer =>
    let device : Handle := ⟨path,.probe,number⟩
    [.opened device,.asked device .capability answer,.closed device]

/-- The device that a look finds. -/
def choice? : Look → Option (Choice String)
  | answered path _ (.ok capability) => if capability.captures then some ⟨capability.card,path⟩ else none
  | _ => none

end Look

/-- What is seen of a search, and what it finds. Candidates that cannot be listed count as none. -/
def Discovered (h : History) (found : List (Choice String)) : Prop :=
  ∃ (candidates : Except Fault (List String)) (looks : List Look), h = .listed candidates :: looks.flatMap Look.seen ∧
    looks.map Look.path = candidates.toOption.getD [] ∧ found = looks.filterMap Look.choice?

/-- A word has a flag in common with one that is a power of two if and only if the bit at its place is set. -/
theorem and_flag_ne_zero_iff (n flag : UInt32) (place : Nat) (power : flag.toNat = Nat.pow 2 place) :
    n &&& flag ≠ 0 ↔ n.toNat.testBit place = true := by
  have bit : (n &&& flag).toNat = (n.toNat.testBit place).toNat * Nat.pow 2 place := by
    rw [UInt32.toNat_and,power]
    exact Nat.and_two_pow n.toNat place
  have positive : 0 < Nat.pow 2 place := Nat.pow_pos (by decide)
  rw [ne_eq,← UInt32.toNat_inj,bit,UInt32.toNat_zero]
  cases n.toNat.testBit place with
  | false => simp
  | true =>
    rw [Bool.toNat_true,Nat.one_mul]
    simp only [iff_true]
    omega

theorem Capability.isCapture_eq (c : Capability) : c.isCapture = c.captures := by
  have perNode_iff := and_flag_ne_zero_iff c.capabilities perNode 31 rfl
  have own := and_flag_ne_zero_iff c.deviceCaps videoCapture 0 rfl
  have whole := and_flag_ne_zero_iff c.capabilities videoCapture 0 rfl
  rw [Bool.eq_iff_iff,isCapture,decide_eq_true_eq,nodeAbilities,captures]
  by_cases apart : c.capabilities &&& perNode ≠ 0
  · rw [if_pos apart,if_pos (perNode_iff.mp apart)]
    exact own
  · rw [if_neg apart,if_neg (fun bit => apart (perNode_iff.mpr bit))]
    exact whole

theorem Look.choice?_answered (path : String) (number : Nat) (answer : Except Fault Capability) :
    (Look.answered path number answer).choice? = Choice.ofAnswer path answer := by
  cases answer with
  | error fault => rfl
  | ok capability => rw [choice?,Choice.ofAnswer,capability.isCapture_eq]

theorem Probed.look {path : String} {h : History} {choice : Option (Choice String)} (probed : Probed path h choice) :
    ∃ look : Look, look.path = path ∧ h = look.seen ∧ choice = look.choice? := by
  cases probed with
  | @refused fault => exact ⟨.refused path fault,rfl,rfl,rfl⟩
  | @asked number answer =>
    refine ⟨.answered path number answer,rfl,rfl,?_⟩
    rw [Look.choice?_answered]

theorem ProbedAll.looks {paths : List String} {h : History} {found : List (Choice String)}
    (probed : ProbedAll paths h found) :
    ∃ looks : List Look, looks.map Look.path = paths ∧ h = looks.flatMap Look.seen ∧ found = looks.filterMap Look.choice? := by
  induction probed with
  | none => exact ⟨[],rfl,rfl,rfl⟩
  | @next path paths h k choice others first rest ih =>
    obtain ⟨look,rfl,rfl,rfl⟩ := first.look
    obtain ⟨looks,rfl,rfl,rfl⟩ := ih
    refine ⟨look :: looks,rfl,rfl,?_⟩
    cases finds : look.choice? with
    | none => simp [finds]
    | some choice => simp [finds]

theorem Enumerated.discovered {h : History} {found : List (Choice String)} (enumerated : Enumerated h found) :
    Discovered h found := by
  cases enumerated with
  | @unlisted fault => exact ⟨.error fault,[],rfl,rfl,rfl⟩
  | @listed paths h found all =>
    obtain ⟨looks,named,rfl,rfl⟩ := all.looks
    exact ⟨.ok paths,looks,rfl,named,rfl⟩

/-! ### One device at a time -/

open Ledger (opened? closed?)

/-- Devices are opened one after the other: at every moment those that were opened have been closed in the same order,
    but for at most one, and while one is open, something follows that opens no other. -/
def OneAtATime (h : History) : Prop :=
  ∀ before after, h = before ++ after → before.filterMap opened? = before.filterMap closed? ∨
    ∃ d e rest, before.filterMap opened? = before.filterMap closed? ++ [d] ∧ after = e :: rest ∧ opened? e = none

namespace OneAtATime
variable {h k : History}

theorem nil : OneAtATime [] := by
  intro before after cut
  obtain ⟨rfl,rfl⟩ := List.append_eq_nil_iff.mp cut.symm
  exact .inl rfl

/-- At the end no device is open. -/
theorem ends (one : OneAtATime h) : h.filterMap opened? = h.filterMap closed? := by
  rcases one h [] (List.append_nil h).symm with all | ⟨d,e,rest,-,none,-⟩
  · exact all
  · cases none

theorem append (first : OneAtATime h) (rest : OneAtATime k) : OneAtATime (h ++ k) := by
  intro before after cut
  rcases List.append_eq_append_iff.mp cut with ⟨between,rfl,later⟩ | ⟨between,earlier,rfl⟩
  · -- The cut is in the second part; all that the first part opened is closed.
    rw [List.filterMap_append,List.filterMap_append,first.ends]
    rcases rest between after later with all | ⟨d,e,others,opened,follows,none⟩
    · exact .inl (by rw [all])
    · exact .inr ⟨d,e,others,by rw [opened,List.append_assoc],follows,none⟩
  · rcases first before between earlier with all | ⟨d,e,others,opened,rfl,none⟩
    · exact .inl all
    · exact .inr ⟨d,e,others ++ k,opened,rfl,none⟩

theorem quiet {e : Event} (noOpening : opened? e = none) (noClosing : closed? e = none) : OneAtATime [e] := by
  intro before after cut
  left
  rcases List.singleton_eq_append_iff.mp cut with ⟨rfl,-⟩ | ⟨rfl,-⟩
  · rfl
  · simp [noOpening,noClosing]

/-- A candidate is closed right after it was asked what it is. -/
theorem look (l : Look) : OneAtATime l.seen := by
  cases l with
  | refused path fault => exact quiet rfl rfl
  | answered path number answer =>
    intro before after cut
    simp only [Look.seen] at cut
    rcases before with _ | ⟨e,_ | ⟨e',_ | ⟨e'',before⟩⟩⟩
    · exact .inl rfl
    · simp only [List.cons_append,List.nil_append,List.cons.injEq] at cut
      obtain ⟨rfl,rfl⟩ := cut
      exact .inr ⟨_,_,_,rfl,rfl,rfl⟩
    · simp only [List.cons_append,List.nil_append,List.cons.injEq] at cut
      obtain ⟨rfl,rfl,rfl⟩ := cut
      exact .inr ⟨_,_,_,rfl,rfl,rfl⟩
    · simp only [List.cons_append,List.cons.injEq,List.nil_eq_append_iff] at cut
      obtain ⟨rfl,rfl,rfl,rfl,-⟩ := cut
      exact .inl rfl

theorem looks (ls : List Look) : OneAtATime (ls.flatMap Look.seen) := by
  induction ls with
  | nil => exact nil
  | cons l ls ih => exact (look l).append ih

end OneAtATime

theorem Discovered.oneAtATime {h : History} {found : List (Choice String)} (discovered : Discovered h found) :
    OneAtATime h := by
  obtain ⟨candidates,looks,rfl,-,-⟩ := discovered
  exact (OneAtATime.quiet (e := .listed candidates) rfl rfl).append (.looks looks)

/-! ### The device of the settings -/

/-- Settings name no device: there is none under its key, or an empty text, or a number. -/
def Settings.NamesNoDevice (settings : Settings) : Prop := ∀ name, settings.lookup deviceKey = some (.text name) → name = ""

theorem Settings.getText_eq_empty_iff (settings : Settings) :
    settings.getText deviceKey = "" ↔ settings.NamesNoDevice := by
  rw [getText,NamesNoDevice]
  rcases settings.lookup deviceKey with _ | number | name
  · simp
  · simp
  · simp

/-- What becomes of settings when devices were found: the first device is stored if they name none, and nothing else
    changes. -/
structure Settings.Adopts (settings : Settings) (found : List (Choice String)) (chosen : Settings) : Prop where
  first : ∀ first ∈ found.head?, settings.NamesNoDevice → chosen.values.find? deviceKey = some (.text first.value)
  named : ¬ settings.NamesNoDevice → chosen = settings
  noneFound : found = [] → chosen = settings
  others : ∀ key ≠ deviceKey, chosen.values.find? key = settings.values.find? key
  defaults : chosen.defaults = settings.defaults

namespace World
variable (world)

theorem adopt_adopts (settings : Settings) (found : List (Choice String)) (s : ω) :
    (adopt settings found : Act ω Settings).Yields s fun chosen h => settings.Adopts found chosen ∧ h = [] := by
  cases found with
  | nil =>
    refine yields_pure ⟨⟨?_,fun _ => rfl,fun _ => rfl,fun _ _ => rfl,rfl⟩,rfl⟩
    exact fun first member => absurd member (Option.not_mem_none first)
  | cons first others =>
    have someFound : first :: others ≠ [] := List.cons_ne_nil first others
    by_cases blank : settings.getText Settings.deviceKey = ""
    · simp only [adopt,blank,↓reduceIte]
      have noName := settings.getText_eq_empty_iff.mp blank
      refine yields_notice (yields_pure ⟨⟨?_,?_,?_,?_,rfl⟩,rfl⟩)
      · rintro _ ⟨⟩ -
        rw [Settings.setText,Settings.set,KeyMap.find?_insert,if_pos rfl]
      · intro named
        exact absurd noName named
      · intro noneFound
        exact absurd noneFound someFound
      · intro key other
        rw [Settings.setText,Settings.set,KeyMap.find?_insert,if_neg other]
    · simp only [adopt,blank,↓reduceIte]
      refine yields_pure ⟨⟨?_,fun _ => rfl,fun _ => rfl,fun _ _ => rfl,rfl⟩,rfl⟩
      intro first' _ noName
      exact absurd (settings.getText_eq_empty_iff.mpr noName) blank

/-- A search lists the candidates and looks at each of them once, in their order, whatever came of the looks before. It
    finds a device for each candidate that opens and whose own abilities include capturing video, under the name of
    its card and its path. Each candidate that opens is closed before another one is opened, and before the search is
    over. Settings without a device get the first one that is found; all other values and all defaults stay, and so
    does everything if the settings name a device or none is found. -/
theorem devices_discovered (settings : Settings) (s : ω) :
    (world.captureDevices.Yields s fun found h => Discovered h found ∧ OneAtATime h) ∧
    (world.captureDevicesFor settings).Yields s fun (found,chosen) h =>
      Discovered h found ∧ OneAtATime h ∧ settings.Adopts found chosen := by
  have search := yields_mono (fun found h enumerated => Enumerated.discovered enumerated)
    (captureDevices_enumerated world s)
  refine ⟨yields_mono (fun found h discovered => ⟨discovered,discovered.oneAtATime⟩) search,?_⟩
  unfold captureDevicesFor
  refine yields_then search fun found h s' discovered => ?_
  refine yields_then (adopt_adopts settings found s') fun chosen k s'' adopted => yields_pure ?_
  obtain ⟨adopts,rfl⟩ := adopted
  rw [List.append_nil,List.append_nil]
  exact ⟨discovered,discovered.oneAtATime,adopts⟩

end World
end VideoCapture
