import VideoCapture.Proofs.Acts
import VideoCapture.Selection.Search
/-!
# What is seen of a search for devices

Each candidate is opened, asked what it is and closed again, in the order in which the candidates are listed,
whatever becomes of it; those that say that they capture video are found (`Enumerated`). A search that makes
its calls one by one comes to the same: `Remaining` says what is still to be seen of it and found, and every
call takes its part off (`step_remaining`).
-/
namespace VideoCapture
variable {ω : Type} {world : World ω}

open Act

/-- What a candidate is by its answer. -/
def Choice.ofAnswer (path : String) : Except Fault Capability → Option (Choice String)
  | .ok capability => if capability.isCapture then some ⟨capability.card,path⟩ else none
  | .error _ => none

/-- What is seen of a look at a candidate, and what it is. -/
inductive Probed (path : String) : History → Option (Choice String) → Prop
  | refused {fault : Fault} : Probed path [.refused path .probe fault] none
  | asked {number : Nat} {answer : Except Fault Capability} :
      Probed path [.opened ⟨path,.probe,number⟩,.asked ⟨path,.probe,number⟩ .capability answer,
        .closed ⟨path,.probe,number⟩] (Choice.ofAnswer path answer)

/-- What is seen of a look at one candidate after the other, and what is found. -/
inductive ProbedAll : List String → History → List (Choice String) → Prop
  | none : ProbedAll [] [] []
  | next {path : String} {paths : List String} {h k : History} {choice : Option (Choice String)}
      {others : List (Choice String)} (first : Probed path h choice) (rest : ProbedAll paths k others) :
      ProbedAll (path :: paths) (h ++ k) (choice.toList ++ others)

/-- What is seen of a search for the capture devices, and what is found. -/
inductive Enumerated : History → List (Choice String) → Prop
  | unlisted {fault : Fault} : Enumerated [.listed (.error fault)] []
  | listed {paths : List String} {h : History} {found : List (Choice String)} (all : ProbedAll paths h found) :
      Enumerated (.listed (.ok paths) :: h) found

/-- The settings when devices were looked for: the first that was found becomes the device. -/
def Settings.choosing (settings : Settings) : List (Choice String) → Settings
  | first :: _ => settings.setText deviceKey first.value
  | [] => settings

namespace Act

variable {β : Type} {s : ω} {post : β → History → Prop}

theorem yields_judge {path : String} {answer : Except Fault Capability} {next : Option (Choice String) → Act ω β}
    (each : ∀ s', Yields (next (Choice.ofAnswer path answer)) s' post) :
    Yields (World.probe.judge path answer >>= next) s post := by
  cases answer with
  | error fault =>
    simp only [World.probe.judge,bind_assoc,pure_bind]
    exact yields_notice (each s)
  | ok capability =>
    simp only [World.probe.judge]
    by_cases fit : capability.isCapture = true
    · simp only [fit,↓reduceIte,bind_assoc,pure_bind]
      simp only [Choice.ofAnswer,fit,↓reduceIte] at each
      exact yields_notice (each s)
    · simp only [fit,Bool.false_eq_true,↓reduceIte,bind_assoc,pure_bind]
      simp only [Choice.ofAnswer,fit,Bool.false_eq_true,↓reduceIte] at each
      exact yields_notice (each s)

end Act

namespace World
variable (world)

theorem probe_probed (path : String) (s : ω) : (world.probe path).Yields s fun choice h => Probed path h choice := by
  unfold probe
  refine yields_open (fun number s' => ?_) fun fault s' => ?_
  · refine yields_request fun answer s' => yields_judge fun s' => yields_close fun s' => yields_pure ?_
    exact .asked
  · exact yields_notice (yields_pure .refused)

theorem probeAll_probed (paths : List String) (s : ω) :
    (world.probeAll paths).Yields s fun found h => ProbedAll paths h found := by
  induction paths generalizing s with
  | nil => exact yields_pure .none
  | cons path paths ih =>
    refine yields_then (probe_probed world path s) fun choice h s' first => ?_
    refine yields_then (ih s') fun others k s'' rest => yields_pure ?_
    rw [List.append_nil]
    exact .next first rest

theorem captureDevices_enumerated (s : ω) : world.captureDevices.Yields s fun found h => Enumerated h found := by
  unfold captureDevices
  refine yields_list fun answer s' => ?_
  cases answer with
  | error fault => exact yields_notice (yields_pure .unlisted)
  | ok paths => exact yields_mono (fun _ _ all => .listed all) (probeAll_probed world paths s')

theorem adopt_choosing {settings : Settings} (blank : settings.getText Settings.deviceKey = "")
    (found : List (Choice String)) (s : ω) :
    (adopt settings found : Act ω Settings).Yields s fun chosen h => chosen = settings.choosing found ∧ h = [] := by
  cases found with
  | nil => exact yields_pure ⟨rfl,rfl⟩
  | cons first others =>
    simp only [adopt,blank,↓reduceIte]
    exact yields_notice (yields_pure ⟨rfl,rfl⟩)

end World

namespace Search

/-- What is still to be seen of a search, and what will have been found. -/
def Remaining : Search → History → List (Choice String) → Prop
  | listing, h, found => Enumerated h found
  | opening paths before, h, found => ∃ others, ProbedAll paths h others ∧ found = before ++ others
  | asking path device paths before, h, found => ∃ answer k others, ProbedAll paths k others ∧
      h = .asked device .capability answer :: .closed device :: k ∧
      found = before ++ (Choice.ofAnswer path answer).toList ++ others
  | closing device paths before, h, found => ∃ k others, ProbedAll paths k others ∧
      h = .closed device :: k ∧ found = before ++ others

/-- What is seen of a step, and then of all that is left, was to be seen before. -/
theorem step_remaining (search : Search) (s : ω) :
    (search.step world).Yields s fun search' h => ∀ k found, search'.Remaining k found →
      search.Remaining (h ++ k) found := by
  cases search with
  | listing =>
    refine yields_list fun answer s' => ?_
    cases answer with
    | error fault =>
      refine yields_notice (yields_pure ?_)
      rintro k found ⟨others,_ | _,rfl⟩
      exact .unlisted
    | ok paths =>
      refine yields_pure ?_
      rintro k found ⟨others,all,rfl⟩
      exact .listed all
  | opening paths before =>
    cases paths with
    | nil => exact yields_pure fun k found remaining => remaining
    | cons path paths =>
      refine yields_open (fun number s' => ?_) fun fault s' => ?_
      · refine yields_pure ?_
        rintro k found ⟨answer,k',others,all,rfl,rfl⟩
        have first : Probed path [.opened ⟨path,.probe,number⟩,.asked ⟨path,.probe,number⟩ .capability answer,
          .closed ⟨path,.probe,number⟩] (Choice.ofAnswer path answer) := .asked
        have both := ProbedAll.next first all
        exact ⟨_,both,List.append_assoc ..⟩
      · refine yields_notice (yields_pure ?_)
        rintro k found ⟨others,all,rfl⟩
        exact ⟨_,.next .refused all,rfl⟩
  | asking path device paths before =>
    refine yields_request fun answer s' => yields_judge fun s' => yields_pure ?_
    rintro k found ⟨k',others,all,rfl,rfl⟩
    exact ⟨answer,k',others,all,rfl,rfl⟩
  | closing device paths before =>
    refine yields_close fun s' => yields_pure ?_
    rintro k found ⟨others,all,rfl⟩
    exact ⟨k,others,all,rfl,rfl⟩

variable (world)

theorem rest_remaining (search : Search) (s : ω) :
    (search.rest world).Yields s fun found h => search.Remaining h found := by
  cases search with
  | listing => exact World.captureDevices_enumerated world s
  | opening paths before =>
    refine yields_then (World.probeAll_probed world paths s) fun others h s' all => yields_pure ?_
    exact ⟨others,by rwa [List.append_nil],rfl⟩
  | asking path device paths before =>
    refine yields_request fun answer s' => yields_judge fun s' => yields_close fun s' => ?_
    refine yields_then (World.probeAll_probed world paths s') fun others h s'' all => yields_pure ?_
    exact ⟨answer,h,others,all,by rw [List.append_nil],rfl⟩
  | closing device paths before =>
    refine yields_close fun s' => ?_
    refine yields_then (World.probeAll_probed world paths s') fun others h s'' all => yields_pure ?_
    exact ⟨h,others,all,by rw [List.append_nil],rfl⟩

end Search
end VideoCapture
