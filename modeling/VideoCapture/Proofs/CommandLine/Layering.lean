import VideoCapture.CommandLine.Layers
import VideoCapture.Proofs.CommandLine.Terms
import VideoCapture.Proofs.Settings.Changes
import VideoCapture.Proofs.Settings.Passage
/-!
# Three layers of settings

The settings that a command works with come of the standard configuration, a settings file and the options of the
command. `Mistake` lists what can be wrong with the file and the options, in the order in which it is looked for;
`Sources` says what they hold if nothing is wrong, and `Sources.configuration` what each field then is. Main statement:
the first mistake is what the command fails with; without one, the settings hold this configuration, and else what the
file holds (`settings_layered`).
-/
namespace VideoCapture

/-- What a value counts as where a number of 32 bits is wanted: a whole number modulo 2³², and a text as zero. -/
def Setting.word : Setting → UInt32
  | int n => .ofNat (n.toInt % UInt32.size).toNat
  | text _ => 0

theorem Setting.word_int (n : Int64) : (int n).word = n.toUInt64.toUInt32 := by
  rw [word,Configuration.toInt_emod,Int.toNat_natCast,UInt32.ofNat_toNat]

theorem Settings.getWord_eq (s : Settings) (key : String) : s.getWord key = ((s.lookup key).map Setting.word).getD 0 := by
  rw [getWord,getInt]
  rcases s.lookup key with _ | ⟨n⟩ | ⟨t⟩
  · rfl
  · exact (Setting.word_int n).symm
  · rfl

namespace CommandLine

variable (a : CaptureArguments) (contentsOf : FileReader)

/-! ### What can be wrong -/

/-- What comes of reading a settings file: a store if its octets are a text that keeps one. -/
inductive FileRead (path : String) : Except Failure Settings → Prop
  | unread {fault : Fault} (refused : contentsOf path = .error fault) :
      FileRead path (.error (.settingsUnreadable path fault))
  | noText {octets : List UInt8} (read : contentsOf path = .ok octets) (malformed : Utf8.decode? octets = none) :
      FileRead path (.error (.settingsUnreadable path
        (.described .invalidData "stream did not contain valid UTF-8")))
  | noStore {octets : List UInt8} {text : String} {defect : Json.Defect} (read : contentsOf path = .ok octets)
      (written : Utf8.decode? octets = some text.toList) (malformed : Settings.ofText text = .error defect) :
      FileRead path (.error (.settingsMalformed path defect))
  | store {octets : List UInt8} {text : String} {file : Settings} (read : contentsOf path = .ok octets)
      (written : Utf8.decode? octets = some text.toList) (kept : Settings.ofText text = .ok file) :
      FileRead path (.ok file)

/-- What is wrong with the file or the options, and the place that it has in the order in which they are looked at:
    the file, the format, the size, and last the frame rate, or the interval if there is no frame rate. -/
inductive Mistake : Nat → Failure → Prop
  | file {path : String} {failure : Failure} (given : a.settings = some path)
      (malformed : FileRead contentsOf path (.error failure)) : Mistake 0 failure
  | format {text : String} (given : a.format = some text) (malformed : (Utf8.encode text.toList).length ≠ 4) :
      Mistake 1 (.formatLength text)
  | size {text : String} {failure : Failure} (given : a.resolution = some text)
      (malformed : resolution text = .error failure) : Mistake 2 failure
  | rate {text : String} {failure : Failure} (given : a.framerate = some text)
      (malformed : framerate text = .error failure) : Mistake 3 failure
  | interval {text : String} {failure : Failure} (noRate : a.framerate = none) (given : a.interval = some text)
      (malformed : interval text = .error failure) : Mistake 3 failure

/-- Something is wrong, and nothing at an earlier place. -/
def FirstMistake (failure : Failure) : Prop :=
  ∃ place, Mistake a contentsOf place failure ∧ ∀ earlier < place, ∀ other, ¬ Mistake a contentsOf earlier other

/-! ### What the file and the options hold -/

/-- What an option holds, if it is given. -/
inductive Holds {α : Type} (read : String → Except Failure α) : Option String → Option α → Prop
  | absent : Holds read none none
  | given {text : String} {value : α} (reads : read text = .ok value) : Holds read (some text) (some value)

theorem Holds.reads {α : Type} {read : String → Except Failure α} {option : Option String} {value : α}
    (holds : Holds read option (some value)) : ∃ text, read text = .ok value := by
  cases holds with
  | given reads => exact ⟨_,reads⟩

/-- What the file and the options hold. -/
structure Sources where
  file : Settings
  device : Option String
  format : Option FourCC
  size : Option Resolution
  interval : Option Fraction

/-- The file and the options hold this. Without a file there are no settings in it, and with a frame rate the interval
    is not looked at. -/
structure Sources.Of (sources : Sources) : Prop where
  file : match a.settings with
    | some path => FileRead contentsOf path (.ok sources.file)
    | none => sources.file = .empty
  device : sources.device = a.device
  format : Holds CommandLine.format a.format sources.format
  size : Holds resolution a.resolution sources.size
  interval : match a.framerate with
    | some _ => Holds framerate a.framerate sources.interval
    | none => Holds CommandLine.interval a.interval sources.interval

open Settings in
/-- The configuration with what the options hold, and else what the file holds, and else the standard. A value of the
    other type in the file counts as the empty text or as zero. -/
def Sources.configuration (sources : Sources) : Configuration where
  device := sources.device.getD (((sources.file.values.find? deviceKey).map Setting.words).getD "")
  format := sources.format.getD
    (((sources.file.values.find? formatKey).map fun value => ⟨value.word⟩).getD .yuyv)
  packedResolution := (sources.size.map fun r => pack r.width r.height).getD
    (((sources.file.values.find? resolutionKey).map Setting.word).getD (pack 640 480))
  packedInterval := (sources.interval.map fun f => pack f.numerator f.denominator).getD
    (((sources.file.values.find? framerateKey).map Setting.word).getD (pack 1 30))

/-! ### The four places -/

open CaptureArguments (given)

theorem given_eq_ok_iff {α : Type} {read : String → Except Failure α} {option : Option String} {value : Option α} :
    given read option = .ok value ↔ Holds read option value := by
  constructor
  · intro reads
    cases option with
    | none =>
      obtain rfl := Except.ok.inj reads
      exact .absent
    | some text =>
      obtain ⟨v,read',rfl⟩ := map_eq_ok_iff.mp reads
      exact .given read'
  · intro holds
    cases holds with
    | absent => rfl
    | given reads =>
      rw [given,reads]
      rfl

theorem given_eq_error_iff {α : Type} {read : String → Except Failure α} {option : Option String} {failure : Failure} :
    given read option = .error failure ↔ ∃ text, option = some text ∧ read text = .error failure := by
  cases option with
  | none => simp [given]
  | some text =>
    rw [given,map_eq_error_iff]
    simp

theorem format_eq_error_iff {text : String} {failure : Failure} :
    format text = .error failure ↔ (Utf8.encode text.toList).length ≠ 4 ∧ failure = .formatLength text := by
  rw [format,FourCC.ofText?]
  split
  · rename_i code spelled
    split at spelled
    · rename_i octets
      simp [octets]
    · cases spelled
  · rename_i spelled
    split at spelled
    · cases spelled
    · rename_i others
      have length : (Utf8.encode text.toList).length ≠ 4 := by
        intro four
        obtain ⟨a,b,c,d,same⟩ := List.length_eq_four.mp four
        exact others a b c d same
      constructor
      · intro same
        exact ⟨length,(Except.error.inj same).symm⟩
      · rintro ⟨-,rfl⟩
        rfl

variable {a contentsOf}

theorem readSettings_eq_iff {path : String} {result : Except Failure Settings} :
    readSettings contentsOf path = result ↔ FileRead contentsOf path result := by
  constructor
  · rintro rfl
    unfold readSettings textOf
    cases read : contentsOf path with
    | error fault => exact .unread read
    | ok octets =>
      simp only [bind,Except.bind]
      cases decoded : Utf8.decode? octets with
      | none => exact .noText read decoded
      | some cs =>
        have written : Utf8.decode? octets = some (String.ofList cs).toList := by rw [decoded,String.toList_ofList]
        dsimp only
        cases parsed : Settings.ofText (String.ofList cs) with
        | error defect => exact .noStore read written parsed
        | ok file => exact .store read written parsed
  · rintro (refused | ⟨read,malformed⟩ | ⟨read,written,malformed⟩ | ⟨read,written,kept⟩)
    · simp only [readSettings,refused,bind,Except.bind]
    · simp only [readSettings,read,bind,Except.bind,textOf,malformed]
    · simp only [readSettings,read,bind,Except.bind,textOf,written,String.ofList_toList,malformed]
    · simp only [readSettings,read,bind,Except.bind,textOf,written,String.ofList_toList,kept]

theorem mistake_file_iff {failure : Failure} : Mistake a contentsOf 0 failure ↔ a.fileLayer contentsOf = .error failure := by
  rw [CaptureArguments.fileLayer]
  cases named : a.settings with
  | none =>
    constructor
    · rintro ⟨given,_⟩
      rw [named] at given
      cases given
    · nofun
  | some path =>
    dsimp only
    rw [map_eq_error_iff,readSettings_eq_iff]
    constructor
    · rintro ⟨given,malformed⟩
      rw [named] at given
      cases given
      exact malformed
    · intro malformed
      exact .file named malformed

theorem mistake_format_iff {failure : Failure} : Mistake a contentsOf 1 failure ↔ given format a.format = .error failure := by
  rw [given_eq_error_iff]
  constructor
  · rintro ⟨⟩
    rename_i text given malformed
    exact ⟨text,given,format_eq_error_iff.mpr ⟨malformed,rfl⟩⟩
  · rintro ⟨text,given,failed⟩
    obtain ⟨malformed,rfl⟩ := format_eq_error_iff.mp failed
    exact .format given malformed

theorem mistake_size_iff {failure : Failure} :
    Mistake a contentsOf 2 failure ↔ given resolution a.resolution = .error failure := by
  rw [given_eq_error_iff]
  constructor
  · rintro ⟨⟩
    rename_i text given malformed
    exact ⟨text,given,malformed⟩
  · rintro ⟨text,given,malformed⟩
    exact .size given malformed

theorem mistake_interval_iff {failure : Failure} : Mistake a contentsOf 3 failure ↔ a.interval? = .error failure := by
  rw [CaptureArguments.interval?]
  cases rate : a.framerate with
  | none =>
    dsimp only
    rw [given_eq_error_iff]
    constructor
    · rintro (_ | _ | _ | ⟨given,_⟩ | ⟨_,given,malformed⟩)
      · rw [rate] at given
        cases given
      · exact ⟨_,given,malformed⟩
    · rintro ⟨text,given,malformed⟩
      exact .interval rate given malformed
  | some text =>
    dsimp only
    rw [map_eq_error_iff]
    constructor
    · rintro (_ | _ | _ | ⟨given,malformed⟩ | ⟨noRate,_,_⟩)
      · rw [rate] at given
        cases given
        exact malformed
      · rw [rate] at noRate
        cases noRate
    · intro malformed
      exact .rate rate malformed

/-! ### The four places in turn -/

/-- A configuration with what the options hold in place of its own. -/
def overlaid (config : Configuration) (device : Option String) (format : Option FourCC) (size : Option Resolution)
    (interval : Option Fraction) : Configuration where
  device := device.getD config.device
  format := format.getD config.format
  packedResolution := (size.map fun r => pack r.width r.height).getD config.packedResolution
  packedInterval := (interval.map fun f => pack f.numerator f.denominator).getD config.packedInterval

theorem overlay_eq (a : CaptureArguments) (config : Configuration) : a.overlay config = do
    let code ← given format a.format
    let size ← given resolution a.resolution
    let time ← a.interval?
    return overlaid config a.device code size time := by
  unfold CaptureArguments.overlay
  refine bind_congr fun code => bind_congr fun size => bind_congr fun time => congrArg pure ?_
  cases a.device <;> cases code <;> cases size <;> cases time <;> rfl

/-- The settings that an invocation works with, if all four places are in order. -/
theorem effectiveSettings_eq_ok_iff {settings : Settings} : a.effectiveSettings contentsOf = .ok settings ↔
    ∃ base, a.fileLayer contentsOf = .ok base ∧ ∃ code, given format a.format = .ok code ∧
      ∃ size, given resolution a.resolution = .ok size ∧ ∃ time, a.interval? = .ok time ∧
        (overlaid (.ofSettings base) a.device code size time).storeIn base = settings := by
  simp only [CaptureArguments.effectiveSettings,overlay_eq,bind_assoc,bind_eq_ok_iff,pure,Except.pure,Except.ok.injEq,
    exists_eq_left']

theorem effectiveSettings_eq_error_iff {failure : Failure} : a.effectiveSettings contentsOf = .error failure ↔
    a.fileLayer contentsOf = .error failure ∨ ∃ base, a.fileLayer contentsOf = .ok base ∧
      (given format a.format = .error failure ∨ ∃ code, given format a.format = .ok code ∧
        (given resolution a.resolution = .error failure ∨ ∃ size, given resolution a.resolution = .ok size ∧
          a.interval? = .error failure)) := by
  simp only [CaptureArguments.effectiveSettings,overlay_eq,bind_assoc,bind_eq_error_iff,pure,Except.pure,reduceCtorEq,
    and_false,exists_false,or_false]

theorem Mistake.place {place : Nat} {failure : Failure} (mistake : Mistake a contentsOf place failure) :
    place = 0 ∨ place = 1 ∨ place = 2 ∨ place = 3 := by
  cases mistake <;> simp

/-- Where nothing is wrong at a place, something comes of it. -/
theorem ok_of_no_mistake {α : Type} {place : Nat} {x : Except Failure α}
    (same : ∀ {failure}, Mistake a contentsOf place failure ↔ x = .error failure)
    (none : ∀ failure, ¬ Mistake a contentsOf place failure) : ∃ v, x = .ok v :=
  exists_ok_iff.mpr fun failure failed => none failure (same.mpr failed)

/-- An invocation fails with the first mistake, and with nothing else. -/
theorem fails_iff_firstMistake {failure : Failure} :
    a.effectiveSettings contentsOf = .error failure ↔ FirstMistake a contentsOf failure := by
  have right {α : Type} {place : Nat} {x : Except Failure α} {v : α}
      (same : ∀ {failure}, Mistake a contentsOf place failure ↔ x = .error failure) (ok : x = .ok v) :
      ∀ other, ¬ Mistake a contentsOf place other :=
    fun other mistake => exists_ok_iff.mp ⟨v,ok⟩ other (same.mp mistake)
  rw [effectiveSettings_eq_error_iff]
  constructor
  · rintro (file | ⟨base,file,format | ⟨code,format,size | ⟨r,size,interval⟩⟩⟩)
    · refine ⟨0,mistake_file_iff.mpr file,?_⟩
      intro earlier before
      omega
    · refine ⟨1,mistake_format_iff.mpr format,?_⟩
      intro earlier before
      obtain rfl : earlier = 0 := by omega
      exact right mistake_file_iff file
    · refine ⟨2,mistake_size_iff.mpr size,?_⟩
      intro earlier before
      obtain rfl | rfl : earlier = 0 ∨ earlier = 1 := by omega
      · exact right mistake_file_iff file
      · exact right mistake_format_iff format
    · refine ⟨3,mistake_interval_iff.mpr interval,?_⟩
      intro earlier before
      obtain rfl | rfl | rfl : earlier = 0 ∨ earlier = 1 ∨ earlier = 2 := by omega
      · exact right mistake_file_iff file
      · exact right mistake_format_iff format
      · exact right mistake_size_iff size
  · rintro ⟨place,mistake,first⟩
    have file : 0 < place → ∃ base, a.fileLayer contentsOf = .ok base := fun later =>
      ok_of_no_mistake mistake_file_iff (first 0 later)
    have format : 1 < place → ∃ code, given format a.format = .ok code := fun later =>
      ok_of_no_mistake mistake_format_iff (first 1 later)
    have size : 2 < place → ∃ size, given resolution a.resolution = .ok size := fun later =>
      ok_of_no_mistake mistake_size_iff (first 2 later)
    obtain rfl | rfl | rfl | rfl := mistake.place
    · exact .inl (mistake_file_iff.mp mistake)
    · obtain ⟨base,file⟩ := file (by decide)
      exact .inr ⟨base,file,.inl (mistake_format_iff.mp mistake)⟩
    · obtain ⟨base,file⟩ := file (by decide)
      obtain ⟨code,format⟩ := format (by decide)
      exact .inr ⟨base,file,.inr ⟨code,format,.inl (mistake_size_iff.mp mistake)⟩⟩
    · obtain ⟨base,file⟩ := file (by decide)
      obtain ⟨code,format⟩ := format (by decide)
      obtain ⟨r,size⟩ := size (by decide)
      exact .inr ⟨base,file,.inr ⟨code,format,.inr ⟨r,size,mistake_interval_iff.mp mistake⟩⟩⟩

/-- Where something is wrong, something is wrong first. -/
theorem Mistake.first {place : Nat} {failure : Failure} (mistake : Mistake a contentsOf place failure) :
    ∃ first, FirstMistake a contentsOf first := by
  induction place using Nat.strongRecOn generalizing failure with
  | _ place ih =>
    by_cases earlier : ∃ place' < place, ∃ other, Mistake a contentsOf place' other
    · obtain ⟨place',before,other,mistake'⟩ := earlier
      exact ih place' before mistake'
    · exact ⟨failure,place,mistake,fun place' before other mistake' => earlier ⟨place',before,other,mistake'⟩⟩

theorem succeeds_iff_noMistake : (∃ settings, a.effectiveSettings contentsOf = .ok settings) ↔
    ∀ place failure, ¬ Mistake a contentsOf place failure := by
  rw [exists_ok_iff]
  constructor
  · intro succeeds place failure mistake
    obtain ⟨first,isFirst⟩ := mistake.first
    exact succeeds first (fails_iff_firstMistake.mpr isFirst)
  · intro none failure failed
    obtain ⟨place,mistake,-⟩ := fails_iff_firstMistake.mp failed
    exact none place failure mistake

/-! ### What is held without a mistake -/

theorem fileLayer_eq_ok_iff {base : Settings} : a.fileLayer contentsOf = .ok base ↔
    ∃ file, (match a.settings with
      | some path => FileRead contentsOf path (.ok file)
      | none => file = .empty) ∧ Settings.empty.withDefaults.merge file = base := by
  rw [CaptureArguments.fileLayer]
  cases a.settings with
  | none =>
    have unchanged : Settings.empty.withDefaults.merge .empty = Settings.empty.withDefaults := rfl
    simp [unchanged]
  | some path =>
    dsimp only
    rw [map_eq_ok_iff]
    simp only [readSettings_eq_iff]

theorem interval?_eq_ok_iff {time : Option Fraction} : a.interval? = .ok time ↔
    match a.framerate with
    | some _ => Holds framerate a.framerate time
    | none => Holds interval a.interval time := by
  rw [CaptureArguments.interval?]
  cases a.framerate with
  | none => exact given_eq_ok_iff
  | some text =>
    have read : given framerate (some text) = .ok time ↔ Holds framerate (some text) time := given_eq_ok_iff
    exact read

section
variable (file : Settings) (key : String)

/-- What the file holds counts, and else the standard. -/
theorem lookup_base : (Settings.empty.withDefaults.merge file).lookup key =
    (file.values.find? key).or (Settings.empty.withDefaults.defaults.find? key) := by
  have nothing : Settings.empty.withDefaults.values.find? key = none := rfl
  rw [Settings.lookup,Settings.merge,KeyMap.find?_merge,nothing,Option.or_none]

theorem getText_base (noDefault : Settings.empty.withDefaults.defaults.find? key = none) :
    (Settings.empty.withDefaults.merge file).getText key = ((file.values.find? key).map Setting.words).getD "" := by
  rw [Settings.getText_eq,lookup_base,noDefault,Option.or_none]

theorem getWord_base (n : UInt32)
    (default : Settings.empty.withDefaults.defaults.find? key = some (.int n.toUInt64.toInt64)) :
    (Settings.empty.withDefaults.merge file).getWord key = ((file.values.find? key).map Setting.word).getD n := by
  rw [Settings.getWord_eq,lookup_base,default]
  cases file.values.find? key with
  | none =>
    change (Setting.int n.toUInt64.toInt64).word = n
    rw [Setting.word_int,UInt64.toUInt64_toInt64,UInt32.toUInt32_toUInt64]
  | some value => rfl

end

theorem overlaid_base (sources : Sources) :
    overlaid (.ofSettings (Settings.empty.withDefaults.merge sources.file)) sources.device sources.format sources.size
      sources.interval = sources.configuration := by
  have device := getText_base sources.file Settings.deviceKey rfl
  have format := getWord_base sources.file Settings.formatKey FourCC.yuyv.value rfl
  have resolution := getWord_base sources.file Settings.resolutionKey (pack 640 480) rfl
  have framerate := getWord_base sources.file Settings.framerateKey (pack 1 30) rfl
  have code : (⟨(Settings.empty.withDefaults.merge sources.file).getWord Settings.formatKey⟩ : FourCC) =
      ((sources.file.values.find? Settings.formatKey).map fun value => ⟨value.word⟩).getD .yuyv := by
    rw [format]
    cases sources.file.values.find? Settings.formatKey <;> rfl
  simp only [overlaid,Sources.configuration,Configuration.ofSettings,device,code,resolution,framerate]

/-- Settings come of an invocation exactly if the file and the options hold something, and then they are the
    configuration that this is, stored over what the file holds. -/
theorem settings_iff_sources {settings : Settings} : a.effectiveSettings contentsOf = .ok settings ↔
    ∃ sources : Sources, sources.Of a contentsOf ∧
      settings = sources.configuration.storeIn (Settings.empty.withDefaults.merge sources.file) := by
  rw [effectiveSettings_eq_ok_iff]
  constructor
  · rintro ⟨base,layer,code,format,size,resolution,time,interval,rfl⟩
    obtain ⟨file,read,rfl⟩ := fileLayer_eq_ok_iff.mp layer
    refine ⟨⟨file,a.device,code,size,time⟩,⟨read,rfl,?_,?_,?_⟩,?_⟩
    · exact given_eq_ok_iff.mp format
    · exact given_eq_ok_iff.mp resolution
    · exact interval?_eq_ok_iff.mp interval
    · rw [← overlaid_base]
  · rintro ⟨sources,holds,rfl⟩
    refine ⟨_,fileLayer_eq_ok_iff.mpr ⟨sources.file,holds.file,rfl⟩,sources.format,given_eq_ok_iff.mpr holds.format,
      sources.size,given_eq_ok_iff.mpr holds.size,sources.interval,interval?_eq_ok_iff.mpr holds.interval,?_⟩
    rw [← holds.device,overlaid_base]

/-- A text in a file in place of a number hides the standard size; the interval comes of the options. -/
example :
    let sources : Sources := ⟨Settings.empty.setText Settings.resolutionKey "640x480",none,none,none,some ⟨1,60⟩⟩
    sources.configuration = ⟨"",.yuyv,0,pack 1 60⟩ := by
  decide

end CommandLine
end VideoCapture
