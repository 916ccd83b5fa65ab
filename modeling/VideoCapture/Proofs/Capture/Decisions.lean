import VideoCapture.Proofs.Capture.Starts
import VideoCapture.Proofs.Capture.Turns
import VideoCapture.Proofs.Selection.Enumeration
/-!
# What an update decides

An update first settles on a device: a blank one is replaced by the first that a search finds, while the capture
thread of the session may go on (`Deliberated`). Then it compares the configuration with the one applied last,
and either leaves everything as it is, or tears the session down and, with a device, starts another one
(`Followed`). Main statements: that every update is such a course, whenever the thread goes on
(`Source.updateAmid_followed`), and which of the two it takes (`Source.update_decides`).
-/
namespace VideoCapture
variable {ω : Type} {world : World ω} {sink : Sink ω}

open Act

/-! ### The configuration -/

namespace Configuration

/-- Whether settings ask for a configuration: the same device, and numbers that are the same modulo 2³². -/
def Agrees (c : Configuration) (settings : Settings) : Prop :=
  settings.getText Settings.deviceKey = c.device ∧
  (settings.getInt Settings.formatKey).toInt % UInt32.size = c.format.value.toNat ∧
  (settings.getInt Settings.resolutionKey).toInt % UInt32.size = c.packedResolution.toNat ∧
  (settings.getInt Settings.framerateKey).toInt % UInt32.size = c.packedInterval.toNat

instance (c : Configuration) (settings : Settings) : Decidable (c.Agrees settings) :=
  inferInstanceAs (Decidable (_ ∧ _ ∧ _ ∧ _))

theorem toInt_emod (n : Int64) : n.toInt % UInt32.size = n.toUInt64.toUInt32.toNat := by
  have low : n.toUInt64.toUInt32.toNat = n.toBitVec.toNat % UInt32.size := UInt64.toNat_toUInt32 _
  rw [low,← Int64.toInt_toBitVec,BitVec.toInt_eq_toNat_cond,UInt32.size]
  split <;> omega

theorem getWord_eq_iff (settings : Settings) (key : String) (n : UInt32) :
    (settings.getInt key).toInt % UInt32.size = n.toNat ↔ settings.getWord key = n := by
  rw [toInt_emod,Int.natCast_inj,UInt32.toNat_inj]
  rfl

theorem agrees_iff (c : Configuration) (settings : Settings) : c.Agrees settings ↔ c = .ofSettings settings := by
  obtain ⟨device,⟨format⟩,resolution,interval⟩ := c
  simp only [Agrees,getWord_eq_iff,ofSettings,Configuration.mk.injEq,FourCC.mk.injEq]
  exact ⟨fun ⟨a,b,c,d⟩ => ⟨a.symm,b.symm,c.symm,d.symm⟩,fun ⟨a,b,c,d⟩ => ⟨a.symm,b.symm,c.symm,d.symm⟩⟩

theorem differences_eq_nil_iff (old new : Configuration) : old.differences new = [] ↔ old = new := by
  obtain ⟨device,format,resolution,interval⟩ := old
  obtain ⟨device',format',resolution',interval'⟩ := new
  simp [differences]

end Configuration

/-- To look for a device changes no default, and of the values only the device's. -/
theorem Settings.choosing_keeps (settings : Settings) (found : List (Choice String)) :
    (settings.choosing found).defaults = settings.defaults ∧ ∀ key ≠ Settings.deviceKey,
      (settings.choosing found).values.find? key = settings.values.find? key := by
  cases found with
  | nil => exact ⟨rfl,fun key _ => rfl⟩
  | cons first others =>
    refine ⟨rfl,fun key other => ?_⟩
    rw [choosing,setText,set,KeyMap.find?_insert,if_neg other]

/-! ### The thread meanwhile -/

/-- Two histories that come together in one, each in its own order. -/
inductive Interleaved : History → History → History → Prop
  | none : Interleaved [] [] []
  | left {e : Event} {h k whole : History} (rest : Interleaved h k whole) : Interleaved (e :: h) k (e :: whole)
  | right {e : Event} {h k whole : History} (rest : Interleaved h k whole) : Interleaved h (e :: k) (e :: whole)

namespace Interleaved

theorem right_only (k : History) : Interleaved [] k k := by
  induction k with
  | nil => exact .none
  | cons e k ih => exact .right ih

theorem append_left {h k whole : History} (first : History) (rest : Interleaved h k whole) :
    Interleaved (first ++ h) k (first ++ whole) := by
  induction first with
  | nil => exact rest
  | cons e first ih => exact .left ih

theorem append_right {h k whole : History} (first : History) (rest : Interleaved h k whole) :
    Interleaved h (first ++ k) (first ++ whole) := by
  induction first with
  | nil => exact rest
  | cons e first ih => exact .right ih

end Interleaved

namespace Source

/-- What is seen of a source whose thread, if there is one, makes so many steps and is not told to stop. -/
inductive Advanced (world : World ω) : Nat → Source → History → Source → Prop
  | rest (source : Source) : Advanced world 0 source [] source
  | still {steps : Nat} {source source' : Source} {h : History} (noThread : source.session.thread = none)
      (others : Advanced world steps source h source') : Advanced world (steps + 1) source h source'
  | step {steps : Nat} {source source' : Source} {s : ω} {t t' : Thread} {o : Option Event} {h : History}
      (thread : source.session.thread = some t) (move : Thread.Move world s false t o t')
      (others : Advanced world steps { source with session.thread := some t' } h source') :
      Advanced world (steps + 1) source (o.toList ++ h) source'

/-- What is seen of a source that settles on a device, while its thread makes so many steps. -/
inductive Deliberated (world : World ω) (steps : Nat) (source : Source) (settings : Settings) :
    History → Source → Settings → Prop
  | named (device : settings.getText Settings.deviceKey ≠ "") :
      Deliberated world steps source settings [] source settings
  | looked {theirs own h : History} {source' : Source} {found : List (Choice String)}
      (blank : settings.getText Settings.deviceKey = "") (meanwhile : Advanced world steps source theirs source')
      (search : Enumerated own found) (together : Interleaved theirs own h) :
      Deliberated world steps source settings h source' (settings.choosing found)

/-- What is seen of a source that puts a configuration into effect. -/
inductive Followed (world : World ω) (source : Source) (config : Configuration) : History → Source → Prop
  | unchanged (same : source.config = some config) : Followed world source config [] source
  | blank {ending : History} (differs : source.config ≠ some config) (noDevice : config.device = "")
      (ended : source.session.TornDown world ending) : Followed world source config ending ⟨some config,.none⟩
  | started {ending starting : History} {session : Session} (differs : source.config ≠ some config)
      (named : config.device ≠ "") (ended : source.session.TornDown world ending)
      (attempted : Startup.Attempted config starting session) :
      Followed world source config (ending ++ starting) ⟨some config,session⟩

/-- While a source settles on a device, only its thread goes on. -/
theorem Advanced.same {steps : Nat} {source source' : Source} {h : History}
    (advanced : Advanced world steps source h source') :
    source' = { source with session.thread := source'.session.thread } := by
  induction advanced with
  | rest source => rfl
  | still noThread others ih => exact ih
  | step thread move others ih => exact ih

theorem Advanced.of_zero {source source' : Source} {h : History} (advanced : Advanced world 0 source h source') :
    source' = source ∧ h = [] := by
  cases advanced with
  | rest _ => exact ⟨rfl,rfl⟩

theorem Deliberated.same {steps : Nat} {source source' : Source} {settings chosen : Settings} {h : History}
    (deliberated : Deliberated world steps source settings h source' chosen) :
    source' = { source with session.thread := source'.session.thread } := by
  cases deliberated with
  | named device => rfl
  | looked blank meanwhile search together => exact meanwhile.same

variable (world) (sink)

theorem stepThread_advanced (source : Source) (s : ω) :
    (source.stepThread world sink).Yields s fun source' h =>
      ∀ steps k source'', Advanced world steps source' k source'' →
        Advanced world (steps + 1) source (h ++ k) source'' := by
  unfold stepThread
  cases thread : source.session.thread with
  | none => exact yields_pure fun steps k source'' others => .still thread others
  | some t =>
    refine yields_then (Thread.step_move world sink false t s) fun t' h s' moved => yields_pure ?_
    obtain ⟨o,seen,move⟩ := moved
    rw [List.append_nil,seen]
    exact fun steps k source'' others => .step thread move others

/-- A search and the steps of the thread come together. -/
theorem searchAmid_advanced (order : List Bool) (source : Source) (search : Search) (s : ω) :
    (source.searchAmid world sink order search).Yields s fun result h => ∃ theirs own,
      Advanced world (order.count true) source theirs result.1 ∧ search.Remaining own result.2 ∧
        Interleaved theirs own h := by
  -- Each turn is put in front of what its own side does later; the other side waits.
  induction order generalizing source search s with
  | nil =>
    refine yields_then (Search.rest_remaining world search s) fun found own s' remaining => yields_pure ?_
    rw [List.append_nil]
    exact ⟨[],own,.rest source,remaining,.right_only own⟩
  | cons turn order ih =>
    cases turn with
    | true =>
      refine yields_then (stepThread_advanced world sink source s) fun source' first s' step => ?_
      refine yields_mono ?_ (ih source' search s')
      rintro result h ⟨theirs,own,advanced,remaining,together⟩
      rw [List.count_cons_self]
      exact ⟨_,own,step _ _ _ advanced,remaining,together.append_left first⟩
    | false =>
      refine yields_then (Search.step_remaining search s) fun search' first s' step => ?_
      refine yields_mono ?_ (ih source search' s')
      rintro result h ⟨theirs,own,advanced,remaining,together⟩
      rw [List.count_cons_of_ne (by decide)]
      exact ⟨theirs,_,advanced,step _ _ remaining,together.append_right first⟩

/-! ### The update -/

theorem restart_followed (source : Source) {config : Configuration} (differs : source.config ≠ some config) (s : ω) :
    (source.restart world sink config).Yields s fun source' h => Followed world source config h source' := by
  refine yields_then (terminate_tornDown world sink source s) fun source' ending s' torn => ?_
  obtain ⟨rfl,ended⟩ := torn
  by_cases noDevice : config.device = ""
  · simp only [noDevice,↓reduceIte]
    refine yields_notice (yields_pure ?_)
    rw [List.append_nil]
    exact .blank differs noDevice ended
  · simp only [noDevice,↓reduceIte]
    refine yields_mono ?_ (start_attempted world sink _ config s')
    rintro ⟨config',session⟩ starting ⟨rfl,attempted⟩
    exact .started differs noDevice ended attempted

theorem follow_followed (source : Source) (config : Configuration) (s : ω) :
    (source.follow world sink config).Yields s fun source' h => Followed world source config h source' := by
  unfold follow
  cases applied : source.config with
  | none => exact restart_followed world sink source (by simp [applied]) s
  | some current =>
    have compared := current.differences_eq_nil_iff config
    cases changes : current.differences config with
    | nil =>
      have same : source.config = some config := by rw [applied,compared.mp changes]
      simp only [changes]
      exact yields_notice (yields_pure (.unchanged same))
    | cons key keys =>
      have differs : source.config ≠ some config := by
        rw [applied,ne_eq,Option.some.injEq,← compared,changes]
        exact List.cons_ne_nil _ _
      simp only [changes]
      exact yields_notice (restart_followed world sink source differs s)

/-- Every update settles on a device and then puts a configuration into effect. -/
theorem updateAmid_followed (order : List Bool) (source : Source) (settings : Settings) (s : ω) :
    (source.updateAmid world sink order settings).Yields s fun result h => ∃ meanwhile following settled,
      h = meanwhile ++ following ∧
      Deliberated world (order.count true) source settings meanwhile settled result.2 ∧
      Followed world settled (.ofSettings result.2) following result.1 := by
  by_cases blank : settings.getText Settings.deviceKey = ""
  · simp only [updateAmid,blank,↓reduceIte]
    refine yields_then (searchAmid_advanced world sink order source .listing s) fun found h s' searched => ?_
    obtain ⟨theirs,own,advanced,remaining,together⟩ := searched
    refine yields_then (World.adopt_choosing blank found.2 s') fun chosen k s'' adopted => ?_
    obtain ⟨rfl,rfl⟩ := adopted
    refine yields_then (follow_followed world sink found.1 _ s'') fun source' following s''' followed => yields_pure ?_
    rw [List.append_nil]
    exact ⟨h,following,found.1,rfl,.looked blank advanced remaining together,followed⟩
  · simp only [updateAmid,blank,↓reduceIte]
    refine yields_then (follow_followed world sink source _ s) fun source' following s' followed => yields_pure ?_
    rw [List.append_nil]
    exact ⟨[],following,source,rfl,.named blank,followed⟩

/-- An update leaves everything as it is if the configuration applied last is the one that the settings ask for
    by then; all that is seen is the search for a device, if there was one, and what the thread did meanwhile. If
    anything differs, the session is torn down completely, and with a device a start follows that begins by
    opening it. In either case the settings change only in the device, and only if it was blank. -/
theorem update_decides (order : List Bool) (source : Source) (settings : Settings) (s : ω) :
    (source.updateAmid world sink order settings).Yields s fun (source',chosen) h =>
      ∃ meanwhile following settled, h = meanwhile ++ following ∧
        Deliberated world (order.count true) source settings meanwhile settled chosen ∧
        settled = { source with session.thread := settled.session.thread } ∧
        (order.count true = 0 → settled = source) ∧
        (∀ c, source.config = some c →
          (c.Agrees chosen → source' = settled ∧ following = []) ∧
          (¬c.Agrees chosen → ∃ ending starting, following = ending ++ starting ∧
            settled.session.TornDown world ending ∧ source'.config = some (.ofSettings chosen) ∧
            (chosen.getText Settings.deviceKey = "" → starting = [] ∧ source'.session = .none) ∧
            (chosen.getText Settings.deviceKey ≠ "" →
              Startup.Attempted (.ofSettings chosen) starting source'.session ∧
              ∃ e rest, starting = e :: rest ∧ e.triesToOpen (chosen.getText Settings.deviceKey)))) ∧
        chosen.defaults = settings.defaults ∧
        ∀ key, chosen.values.find? key ≠ settings.values.find? key →
          key = Settings.deviceKey ∧ settings.getText Settings.deviceKey = "" := by
  refine yields_mono ?_ (updateAmid_followed world sink order source settings s)
  rintro ⟨source',chosen⟩ h ⟨meanwhile,following,settled,rfl,deliberated,followed⟩
  dsimp only at deliberated followed
  have same := deliberated.same
  have config : settled.config = source.config := by rw [same]
  refine ⟨meanwhile,following,settled,rfl,deliberated,same,?_,?_,?_⟩
  · intro noStep
    cases deliberated with
    | named device => rfl
    | looked blank advanced search together =>
      rw [noStep] at advanced
      exact advanced.of_zero.1
  · intro c applied
    rw [Configuration.agrees_iff]
    rw [← config] at applied
    refine ⟨fun agrees => ?_,fun differs => ?_⟩
    · cases followed with
      | unchanged same => exact ⟨rfl,rfl⟩
      | blank differs noDevice ended => exact absurd (agrees ▸ applied) differs
      | started differs named ended attempted => exact absurd (agrees ▸ applied) differs
    · cases followed with
      | unchanged same => exact absurd (Option.some.inj (applied.symm.trans same)) differs
      | blank _ noDevice ended =>
        exact ⟨following,[],(List.append_nil _).symm,ended,rfl,fun _ => ⟨rfl,rfl⟩,fun named => absurd noDevice named⟩
      | started _ named ended attempted =>
        exact ⟨_,_,rfl,ended,rfl,fun noDevice => absurd noDevice named,fun _ => ⟨attempted,attempted.begins⟩⟩
  · cases deliberated with
    | named device => exact ⟨rfl,fun key changed => absurd rfl changed⟩
    | @looked _ _ _ _ found blank advanced search together =>
      obtain ⟨defaults,values⟩ := settings.choosing_keeps found
      refine ⟨defaults,fun key changed => ⟨?_,blank⟩⟩
      exact Classical.byContradiction fun other => changed (values key other)

/-- Numbers that are the same modulo 2³² ask for the same configuration. -/
example : Configuration.standard.Agrees
    (((Settings.empty.setInt Settings.formatKey 0x756595559).setInt Settings.resolutionKey (0x28001E0 - 2 ^ 32)).setInt
      Settings.framerateKey 0x1001E) := by
  decide +kernel

end Source
end VideoCapture
