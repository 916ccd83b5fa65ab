import VideoCapture.Proofs.Acts
import VideoCapture.Selection.Offers
/-!
# Lists that devices read out

A device reads its pixel formats, frame sizes and frame intervals out one by one, until there is none left or it
fails to go on: `Listed` says what is seen of it and which entries these are. What people can choose is made of
these entries and nothing else, in their order (`World.formats_listed`, `World.resolutions_offered`,
`World.framerates_offered`).
-/
namespace VideoCapture
variable {ω α : Type} {world : World ω}

open Act

/-- What is seen of a device that is asked for its entries from an index on, at most so many times, and the entries
    that it reads out. -/
inductive Listed (asked : UInt32 → Except Fault (Option α) → Event) : Nat → UInt32 → List α → History → Prop
  | enough {index : UInt32} : Listed asked 0 index [] []
  | entry {count : Nat} {index : UInt32} {entry : α} {entries : List α} {h : History}
      (others : Listed asked count (index + 1) entries h) :
      Listed asked (count + 1) index (entry :: entries) (asked index (.ok (some entry)) :: h)
  | last {count : Nat} {index : UInt32} : Listed asked (count + 1) index [] [asked index (.ok none)]
  | failed {count : Nat} {index : UInt32} {fault : Fault} :
      Listed asked (count + 1) index [] [asked index (.error fault)]

/-- The single value of an entry. -/
def Offer.discrete? : Offer α → Option α
  | .discrete value => some value
  | _ => none

/-- What is seen of a device that is asked what it offers, and the values that are taken from it. A device that does
    not begin with a single value gets a fixed list. -/
inductive Offered (asked : UInt32 → Except Fault (Option (Offer α)) → Event) (fixed : List α) : List α → History → Prop
  | listed {value : α} {entries : List (Offer α)} {h : History} (all : Listed asked World.indexBound 0 entries h) :
      Offered asked fixed (entries.filterMap Offer.discrete?) (asked 0 (.ok (some (.discrete value))) :: h)
  | fixed {answer : Except Fault (Option (Offer α))} (ranged : ∀ value, answer ≠ .ok (some (.discrete value))) :
      Offered asked fixed fixed [asked 0 answer]

/-- A pixel format as a choice, if frames can be built from it. -/
def FormatDescription.choice? (entry : FormatDescription) : Option (Choice FourCC) :=
  if (VideoFormat.ofFourCC? entry.pixelFormat).isSome then some ⟨entry.label,entry.pixelFormat⟩ else none

namespace World
variable (world) (device : Handle)

theorem formatsFrom_listed (count : Nat) (index : UInt32) (s : ω) :
    (world.formatsFrom device count index).Yields s fun items h => ∃ entries,
      Listed (fun i answer => .asked device (.format i) answer) count index entries h ∧
        items = entries.filterMap FormatDescription.choice? := by
  induction count generalizing index s with
  | zero => exact yields_pure ⟨[],.enough,rfl⟩
  | succ count ih =>
    unfold formatsFrom
    refine yields_request fun answer s' => ?_
    rcases answer with fault | entry
    · exact yields_notice (yields_pure ⟨[],.failed,rfl⟩)
    · cases entry with
      | none => exact yields_pure ⟨[],.last,rfl⟩
      | some entry =>
        cases shape : VideoFormat.ofFourCC? entry.pixelFormat with
        | some format =>
          have choice : entry.choice? = some ⟨entry.label,entry.pixelFormat⟩ := by
            rw [FormatDescription.choice?,shape,Option.isSome_some,if_pos rfl]
          simp only [shape]
          refine yields_then (ih (index + 1) s') ?_
          rintro items h s'' ⟨entries,listed,rfl⟩
          refine yields_pure ⟨entry :: entries,?_,?_⟩
          · rw [List.append_nil]
            exact .entry listed
          · rw [List.filterMap_cons_some choice]
        | none =>
          have choice : entry.choice? = none := by
            rw [FormatDescription.choice?,shape,if_neg (by decide)]
          simp only [shape]
          refine yields_notice (yields_mono ?_ (ih (index + 1) s'))
          rintro items h ⟨entries,listed,rfl⟩
          refine ⟨entry :: entries,.entry listed,?_⟩
          rw [List.filterMap_cons_none choice]

theorem formats_listed (s : ω) :
    (world.formats device).Yields s fun items h => ∃ entries,
      Listed (fun i answer => .asked device (.format i) answer) indexBound 0 entries h ∧
        items = entries.filterMap FormatDescription.choice? :=
  formatsFrom_listed world device indexBound 0 s

section
variable (entry : UInt32 → Act ω (Except Fault (Option (Offer α))))
  {asked : UInt32 → Except Fault (Option (Offer α)) → Event} {choice : α → Choice UInt32}
  {cut : UInt32 → Fault → Notice}

theorem discreteFrom_listed (each : ∀ index s, (entry index).Yields s fun answer h => h = [asked index answer])
    (count : Nat) (index : UInt32) (s : ω) :
    (discreteFrom entry choice cut count index).Yields s fun items h => ∃ entries,
      Listed asked count index entries h ∧ items = (entries.filterMap Offer.discrete?).map choice := by
  induction count generalizing index s with
  | zero => exact yields_pure ⟨[],.enough,rfl⟩
  | succ count ih =>
    unfold discreteFrom
    refine yields_then (each index s) ?_
    rintro answer h s' rfl
    rcases answer with fault | offer
    · exact yields_notice (yields_pure ⟨[],.failed,rfl⟩)
    · rcases offer with _ | value | range | range
      · exact yields_pure ⟨[],.last,rfl⟩
      · refine yields_then (ih (index + 1) s') ?_
        rintro items h s'' ⟨entries,listed,rfl⟩
        refine yields_pure ⟨.discrete value :: entries,?_,rfl⟩
        rw [List.append_nil]
        exact .entry listed
      · refine yields_mono ?_ (ih (index + 1) s')
        rintro items h ⟨entries,listed,rfl⟩
        exact ⟨.stepwise range :: entries,.entry listed,rfl⟩
      · refine yields_mono ?_ (ih (index + 1) s')
        rintro items h ⟨entries,listed,rfl⟩
        exact ⟨.continuous range :: entries,.entry listed,rfl⟩

/-- What becomes of the first entry that a device is asked for: if it is a single value, all entries are asked for, and
    else none. -/
structure Consults (choice : α → Choice UInt32) (cut : UInt32 → Fault → Notice) (fixed : List α)
    (next : Except Fault (Option (Offer α)) → Act ω (List (Choice UInt32))) : Prop where
  goesOn : ∀ value, next (.ok (some (.discrete value))) = discreteFrom entry choice cut indexBound 0
  stops : ∀ answer s, (∀ value, answer ≠ .ok (some (.discrete value))) →
    (next answer).Yields s fun items h => items = fixed.map choice ∧ h = []

theorem entry_offered {fixed : List α} {next : Except Fault (Option (Offer α)) → Act ω (List (Choice UInt32))}
    (each : ∀ index s, (entry index).Yields s fun answer h => h = [asked index answer])
    (consults : Consults entry choice cut fixed next) (s : ω) :
    (entry 0 >>= next).Yields s fun items h => ∃ values, Offered asked fixed values h ∧ items = values.map choice := by
  refine yields_then (each 0 s) ?_
  rintro answer h s' rfl
  by_cases discrete : ∃ value, answer = .ok (some (.discrete value))
  · obtain ⟨value,rfl⟩ := discrete
    rw [consults.goesOn value]
    refine yields_mono ?_ (discreteFrom_listed entry each indexBound 0 s')
    rintro items h ⟨entries,listed,rfl⟩
    exact ⟨_,.listed listed,rfl⟩
  · have ranged : ∀ value, answer ≠ .ok (some (.discrete value)) := fun value same => discrete ⟨value,same⟩
    refine yields_mono ?_ (consults.stops answer s' ranged)
    rintro items h ⟨rfl,rfl⟩
    exact ⟨fixed,.fixed ranged,rfl⟩

end

theorem resolutions_consults (code : FourCC) : ∃ next,
    world.resolutions device code = (world.request device (.frameSize code 0) >>= next) ∧
      Consults (fun i => world.request device (.frameSize code i)) Resolution.choice .sizesStopped
        fallbackResolutions next := by
  refine ⟨_,rfl,fun _ => rfl,?_⟩
  rintro (fault | _ | value | range | range) s ranged
  · exact yields_notice (yields_notice (yields_pure ⟨rfl,rfl⟩))
  · exact yields_notice (yields_pure ⟨rfl,rfl⟩)
  · exact absurd rfl (ranged value)
  · exact yields_notice (yields_pure ⟨rfl,rfl⟩)
  · exact yields_notice (yields_pure ⟨rfl,rfl⟩)

theorem framerates_consults (code : FourCC) (width height : UInt32) : ∃ next,
    world.framerates device code width height = (world.request device (.frameInterval code width height 0) >>= next) ∧
      Consults (fun i => world.request device (.frameInterval code width height i)) Fraction.choice .intervalsStopped
        fallbackIntervals next := by
  refine ⟨_,rfl,fun _ => rfl,?_⟩
  rintro (fault | _ | value | range | range) s ranged
  · exact yields_notice (yields_notice (yields_pure ⟨rfl,rfl⟩))
  · exact yields_notice (yields_pure ⟨rfl,rfl⟩)
  · exact absurd rfl (ranged value)
  · exact yields_notice (yields_pure ⟨rfl,rfl⟩)
  · exact yields_notice (yields_pure ⟨rfl,rfl⟩)

theorem resolutions_offered (code : FourCC) (s : ω) :
    (world.resolutions device code).Yields s fun items h => ∃ sizes,
      Offered (fun i answer => .asked device (.frameSize code i) answer) fallbackResolutions sizes h ∧
        items = sizes.map Resolution.choice := by
  obtain ⟨next,same,consults⟩ := resolutions_consults world device code
  rw [same]
  exact entry_offered (fun i => world.request device (.frameSize code i)) (fun _ _ => rfl) consults s

theorem framerates_offered (code : FourCC) (width height : UInt32) (s : ω) :
    (world.framerates device code width height).Yields s fun items h => ∃ intervals,
      Offered (fun i answer => .asked device (.frameInterval code width height i) answer) fallbackIntervals intervals h ∧
        items = intervals.map Fraction.choice := by
  obtain ⟨next,same,consults⟩ := framerates_consults world device code width height
  rw [same]
  exact entry_offered (fun i => world.request device (.frameInterval code width height i)) (fun _ _ => rfl) consults s

end World
end VideoCapture
