import Mathlib.Data.List.Induction
import VideoCapture.Kernel.NodeScan
import VideoCapture.Proofs.Text.Numerals
import VideoCapture.Proofs.Text.Utf8
/-!
# The order of candidate devices

A name is a stem and the digits at its end (`Parted`), and one name comes before another by the octets of the stems
and then by the numbers (`Before`). Main statement: a scan finds the candidates of a listing in this order, those that
are tied as they were read; names are tied only if they have the same stem and digits that count as the same number;
and the order of reading shows only where two candidates are tied (`scan_in_order`).
-/
namespace VideoCapture.Kernel

/-- The entries that are not directories and have names that are texts: their names, in the order they were read. -/
def namesIn (entries : List DirectoryEntry) : List String :=
  entries.filterMap fun entry => if entry.kind = .directory then none else String.fromUTF8? entry.name.toByteArray

/-- A name is a stem and digits, and the stem does not end with a digit. -/
structure Parted (name stem digits : String) : Prop where
  whole : name = stem ++ digits
  digit : ∀ c ∈ digits.toList, c.isDigit = true
  ends : ∀ c ∈ stem.toList.getLast?, c.isDigit = false

/-- The number that digits mean, zero if there are none. -/
def decimal (digits : String) : Nat := Nat.ofDigitChars 10 digits.toList 0

/-- The number that digits count as. One that does not fit in 64 bits counts as zero. -/
def counted (digits : String) : Nat := if decimal digits < UInt64.size then decimal digits else 0

/-- A name comes before another: the octets of its stem do, or the stems are the same and its number is smaller. -/
def Before (name other : String) : Prop := ∃ stem digits stem' digits', Parted name stem digits ∧
  Parted other stem' digits' ∧ (Utf8.encode stem.toList < Utf8.encode stem'.toList ∨
    stem = stem' ∧ counted digits < counted digits')

/-- Neither name comes before the other. -/
def Tied (name other : String) : Prop := ¬ Before name other ∧ ¬ Before other name

/-- Digits are the same but for zeros in front. -/
def ZerosApart (digits other : String) : Prop := ∃ k, digits.toList = List.replicate k '0' ++ other.toList ∨
  other.toList = List.replicate k '0' ++ digits.toList

/-- What the paths of a directory's entries begin with: the path of the directory up to a slash, which is there already
    or else follows, and nothing where the directory has no path. -/
inductive Begins : String → String → Prop
  | pathless : Begins "" ""
  | slashed (parent : String) : Begins (parent ++ "/") (parent ++ "/")
  | plain {directory : String} (path : directory ≠ "") (noSlash : ∀ parent, directory ≠ parent ++ "/") :
    Begins directory (directory ++ "/")

/-! ### Paths -/

theorem endsWith_slash_iff (directory : String) :
    directory.endsWith "/" = true ↔ ∃ parent, directory = parent ++ "/" := by
  rw [String.endsWith_eq_endsWith_toSlice,String.Slice.endsWith_string_iff,String.copy_toSlice]
  constructor
  · rintro ⟨parent,whole⟩
    refine ⟨String.ofList parent,String.toList_inj.mp ?_⟩
    rw [String.toList_append,String.toList_ofList,whole]
  · rintro ⟨parent,rfl⟩
    exact ⟨parent.toList,String.toList_append.symm⟩

/-- All names in a directory are joined to the same. -/
theorem exists_begins (directory : String) :
    ∃ front, Begins directory front ∧ ∀ name, joinPath directory name = front ++ name := by
  by_cases pathless : directory = ""
  · obtain rfl := pathless
    exact ⟨"",.pathless,fun name => rfl⟩
  by_cases slashed : ∃ parent, directory = parent ++ "/"
  · obtain ⟨parent,rfl⟩ := slashed
    refine ⟨_,.slashed parent,fun name => ?_⟩
    rw [joinPath,if_pos (.inr ((endsWith_slash_iff _).mpr ⟨parent,rfl⟩))]
  · refine ⟨_,.plain pathless (not_exists.mp slashed),fun name => ?_⟩
    rw [joinPath,if_neg (not_or.mpr ⟨pathless,mt (endsWith_slash_iff directory).mp slashed⟩)]

/-! ### Digits -/

theorem isDigitOctet_iff (b : UInt8) : isDigitOctet b = true ↔ 48 ≤ b.toNat ∧ b.toNat ≤ 57 := by
  rw [isDigitOctet,Bool.and_eq_true,decide_eq_true_eq,decide_eq_true_eq,UInt8.le_iff_toNat_le,UInt8.le_iff_toNat_le]
  rfl

/-- Digits count as the same number if and only if they are the same but for zeros in front, or neither counts. -/
theorem counted_eq_iff {digits other : String} (digit : ∀ c ∈ digits.toList, c.isDigit = true)
    (digit' : ∀ c ∈ other.toList, c.isDigit = true) : counted digits = counted other ↔ ZerosApart digits other ∨
      (decimal digits = 0 ∨ UInt64.size ≤ decimal digits) ∧ (decimal other = 0 ∨ UInt64.size ≤ decimal other) := by
  rw [ZerosApart,← Numeral.ofDigitChars_eq_iff digit digit',← decimal,← decimal,counted,counted]
  split <;> split <;> omega

/-! ### Octets of names -/

theorem encodeChar_digit {c : Char} (digit : c.isDigit = true) :
    ∃ b, String.utf8EncodeChar c = [b] ∧ b.toNat = c.toNat := by
  obtain ⟨-,greatest⟩ := (Numeral.isDigit_iff c).mp digit
  have spelling := Utf8.spelling_encode c
  generalize String.utf8EncodeChar c = front at *
  cases spelling with
  | one _ first => exact ⟨_,rfl,first⟩
  | two | three | four => omega

theorem encodeChar_other {c : Char} (other : c.isDigit = false) :
    ∃ front b, String.utf8EncodeChar c = front ++ [b] ∧ isDigitOctet b = false := by
  have spelling := Utf8.spelling_encode c
  have beyond {b : UInt8} (range : b.toNat < 48 ∨ 57 < b.toNat) : isDigitOctet b = false := by
    rw [← Bool.not_eq_true,isDigitOctet_iff]
    omega
  rw [← Bool.not_eq_true,Numeral.isDigit_iff] at other
  generalize String.utf8EncodeChar c = front at *
  cases spelling with
  | @one a _ first => exact ⟨[],a,rfl,beyond (by omega)⟩
  -- The last octet of a longer spelling is 128 or more.
  | @two a b _ _ _ second => exact ⟨[a],b,rfl,beyond (by omega)⟩
  | @three a b c _ _ _ _ third => exact ⟨[a,b],c,rfl,beyond (by omega)⟩
  | @four a b c d _ _ _ _ fourth => exact ⟨[a,b,c],d,rfl,beyond (by omega)⟩

theorem isDigitOctet_encode {ds : List Char} (digit : ∀ c ∈ ds, c.isDigit = true) :
    ∀ b ∈ Utf8.encode ds, isDigitOctet b = true := by
  intro b member
  obtain ⟨c,memberC,memberB⟩ := List.mem_flatMap.mp member
  obtain ⟨_,octets,same⟩ := encodeChar_digit (digit c memberC)
  rw [octets] at memberB
  obtain rfl := List.mem_singleton.mp memberB
  rw [isDigitOctet_iff,same]
  exact (Numeral.isDigit_iff c).mp (digit c memberC)

theorem foldl_encode {ds : List Char} (digit : ∀ c ∈ ds, c.isDigit = true) (n : Nat) :
    (Utf8.encode ds).foldl (fun n b => n * 10 + (b.toNat - 48)) n = Nat.ofDigitChars 10 ds n := by
  induction ds generalizing n with
  | nil => rfl
  | cons c ds ih =>
    obtain ⟨first,others⟩ := List.forall_mem_cons.mp digit
    obtain ⟨b,octets,same⟩ := encodeChar_digit first
    rw [Utf8.encode_cons,octets,List.singleton_append,List.foldl_cons,ih others,same,Nat.ofDigitChars_cons,Nat.mul_comm]
    rfl

theorem numberOf_encode {digits : String} (digit : ∀ c ∈ digits.toList, c.isDigit = true) :
    numberOf (Utf8.encode digits.toList) = counted digits := by
  rw [numberOf,foldl_encode digit]
  rfl

theorem getLast_encode {cs : List Char} (ends : ∀ c ∈ cs.getLast?, c.isDigit = false) :
    ∀ b ∈ (Utf8.encode cs).getLast?, isDigitOctet b = false := by
  induction cs using List.reverseRecOn with
  | nil => nofun
  | append_singleton cs c _ =>
    obtain ⟨front,b,octets,other⟩ := encodeChar_other (ends c List.getLast?_concat)
    rw [Utf8.encode,List.flatMap_append,List.flatMap_singleton,octets,← List.append_assoc,List.getLast?_concat]
    rintro _ ⟨⟩
    exact other

theorem splitDigits_append {stem digits : List UInt8} (digit : ∀ b ∈ digits, isDigitOctet b = true)
    (ends : ∀ b ∈ stem.getLast?, isDigitOctet b = false) : splitDigits (stem ++ digits) = (stem,digits) := by
  have digit' : ∀ b ∈ digits.reverse, isDigitOctet b = true := fun b member => digit b (List.mem_reverse.mp member)
  have stops : stem.reverse.takeWhile isDigitOctet = [] ∧ stem.reverse.dropWhile isDigitOctet = stem.reverse := by
    rw [← List.head?_reverse] at ends
    cases back : stem.reverse with
    | nil => exact ⟨rfl,rfl⟩
    | cons b bs =>
      have other := ends b (by rw [back]; rfl)
      exact ⟨List.takeWhile_cons_of_neg (by rw [other]; nofun),List.dropWhile_cons_of_neg (by rw [other]; nofun)⟩
  rw [splitDigits,List.reverse_append,List.takeWhile_append_of_pos digit',List.dropWhile_append_of_pos digit',stops.1,
    stops.2,List.append_nil,List.reverse_reverse,List.reverse_reverse]

/-! ### Parts of names -/

theorem exists_parted (name : String) : ∃ stem digits, Parted name stem digits := by
  -- By induction from the end, where the digits are.
  have split (cs : List Char) : ∃ stem digits, cs = stem ++ digits ∧ (∀ c ∈ digits, c.isDigit = true) ∧
      ∀ c ∈ stem.getLast?, c.isDigit = false := by
    induction cs using List.reverseRecOn with
    | nil => exact ⟨[],[],rfl,nofun,nofun⟩
    | append_singleton cs c ih =>
      cases last : c.isDigit with
      | false =>
        refine ⟨cs ++ [c],[],(List.append_nil _).symm,nofun,?_⟩
        rw [List.getLast?_concat]
        rintro _ ⟨⟩
        exact last
      | true =>
        obtain ⟨stem,digits,rfl,digit,ends⟩ := ih
        refine ⟨stem,digits ++ [c],List.append_assoc _ _ _,?_,ends⟩
        exact List.forall_mem_append.mpr ⟨digit,List.forall_mem_singleton.mpr last⟩
  obtain ⟨stem,digits,whole,digit,ends⟩ := split name.toList
  refine ⟨String.ofList stem,String.ofList digits,?_,?_,?_⟩
  · rw [← String.ofList_append,← whole,String.ofList_toList]
  · rwa [String.toList_ofList]
  · rwa [String.toList_ofList]

theorem Parted.split {name stem digits : String} (parted : Parted name stem digits) :
    splitDigits (Utf8.encode name.toList) = (Utf8.encode stem.toList,Utf8.encode digits.toList) := by
  rw [parted.whole,String.toList_append,Utf8.encode,List.flatMap_append]
  exact splitDigits_append (isDigitOctet_encode parted.digit) (getLast_encode parted.ends)

theorem Parted.sortKey_eq {name stem digits : String} (parted : Parted name stem digits) :
    sortKey (Utf8.encode name.toList) = (Utf8.encode stem.toList,counted digits) := by
  rw [sortKey,parted.split,numberOf_encode parted.digit]

/-- Stem and digits of a name are determined. -/
theorem Parted.unique {name stem digits stem' digits' : String} (parted : Parted name stem digits)
    (another : Parted name stem' digits') : stem = stem' ∧ digits = digits' := by
  obtain ⟨stems,runs⟩ := Prod.mk.inj (parted.split.symm.trans another.split)
  exact ⟨Utf8.encode_inj stems,Utf8.encode_inj runs⟩

theorem Parted.before_iff {name other stem digits stem' digits' : String} (parted : Parted name stem digits)
    (parted' : Parted other stem' digits') : Before name other ↔
      Utf8.encode stem.toList < Utf8.encode stem'.toList ∨ stem = stem' ∧ counted digits < counted digits' := by
  constructor
  · rintro ⟨_,_,_,_,another,another',less⟩
    obtain ⟨rfl,rfl⟩ := parted.unique another
    obtain ⟨rfl,rfl⟩ := parted'.unique another'
    exact less
  · exact fun less => ⟨_,_,_,_,parted,parted',less⟩

/-- Of two names with one stem and numbers that fit in 64 bits the one with the smaller number comes first. -/
theorem Parted.before_iff_of_fits {name other stem digits digits' : String} (parted : Parted name stem digits)
    (parted' : Parted other stem digits') (fits : decimal digits < UInt64.size)
    (fits' : decimal digits' < UInt64.size) : Before name other ↔ decimal digits < decimal digits' := by
  rw [parted.before_iff parted',counted,counted,if_pos fits,if_pos fits']
  refine ⟨?_,fun less => .inr ⟨rfl,less⟩⟩
  rintro (less | ⟨-,less⟩)
  · exact absurd less (List.lt_irrefl _)
  · exact less

/-- Names are tied if and only if they have the same stem and digits that count as the same number. -/
theorem tied_iff {name other : String} : Tied name other ↔ ∃ stem digits digits', Parted name stem digits ∧
    Parted other stem digits' ∧ counted digits = counted digits' := by
  constructor
  · rintro ⟨notBefore,notAfter⟩
    obtain ⟨stem,digits,parted⟩ := exists_parted name
    obtain ⟨stem',digits',parted'⟩ := exists_parted other
    rw [parted.before_iff parted'] at notBefore
    rw [parted'.before_iff parted] at notAfter
    obtain less | same | less := Std.lt_trichotomy (Utf8.encode stem.toList) (Utf8.encode stem'.toList)
    · exact absurd (.inl less) notBefore
    · obtain rfl := Utf8.encode_inj same
      exact ⟨stem,digits,digits',parted,parted',Nat.le_antisymm
        (Nat.not_lt.mp fun less => notAfter (.inr ⟨rfl,less⟩)) (Nat.not_lt.mp fun less => notBefore (.inr ⟨rfl,less⟩))⟩
    · exact absurd (.inl less) notAfter
  · rintro ⟨stem,digits,digits',parted,parted',same⟩
    rw [Tied,parted.before_iff parted',parted'.before_iff parted,same]
    have irrefl : ¬ (Utf8.encode stem.toList < Utf8.encode stem.toList ∨ stem = stem ∧
        counted digits' < counted digits') :=
      not_or.mpr ⟨List.lt_irrefl _,fun less => Nat.lt_irrefl _ less.2⟩
    exact ⟨irrefl,irrefl⟩

/-! ### Sorted names -/

theorem naturalLe_iff (a b : List UInt8) : naturalLe a b = true ↔
    (sortKey a).1 < (sortKey b).1 ∨ (sortKey a).1 = (sortKey b).1 ∧ (sortKey a).2 ≤ (sortKey b).2 := by
  simp only [naturalLe,Bool.or_eq_true,Bool.and_eq_true,decide_eq_true_eq,beq_iff_eq]

theorem naturalLe_trans (a b c : List UInt8) (ab : naturalLe a b = true) (bc : naturalLe b c = true) :
    naturalLe a c = true := by
  rw [naturalLe_iff] at *
  rcases ab with ab | ⟨ab,number⟩ <;> rcases bc with bc | ⟨bc,number'⟩
  · exact .inl (List.lt_trans ab bc)
  · exact .inl (bc ▸ ab)
  · exact .inl (ab ▸ bc)
  · exact .inr ⟨ab.trans bc,Nat.le_trans number number'⟩

theorem naturalLe_total (a b : List UInt8) : (naturalLe a b || naturalLe b a) = true := by
  rw [Bool.or_eq_true,naturalLe_iff,naturalLe_iff]
  obtain less | same | less := Std.lt_trichotomy (sortKey a).1 (sortKey b).1
  · exact .inl (.inl less)
  · exact (Nat.le_total (sortKey a).2 (sortKey b).2).imp (.inr ⟨same,·⟩) (.inr ⟨same.symm,·⟩)
  · exact .inr (.inl less)

/-- A name may stand in front of another. -/
def mayPrecede (name other : String) : Bool := naturalLe (Utf8.encode name.toList) (Utf8.encode other.toList)

theorem mayPrecede_iff (name other : String) : mayPrecede name other = true ↔ ¬ Before other name := by
  obtain ⟨stem,digits,parted⟩ := exists_parted name
  obtain ⟨stem',digits',parted'⟩ := exists_parted other
  rw [mayPrecede,naturalLe_iff,parted'.before_iff parted,parted.sortKey_eq,parted'.sortKey_eq,not_or,not_and,Nat.not_lt]
  dsimp only
  obtain less | same | less := Std.lt_trichotomy (Utf8.encode stem.toList) (Utf8.encode stem'.toList)
  · refine iff_of_true (.inl less) ⟨List.lt_asymm less,?_⟩
    rintro rfl
    exact absurd less (List.lt_irrefl _)
  · obtain rfl := Utf8.encode_inj same
    simp [List.lt_irrefl]
  · refine iff_of_false ?_ fun none => none.1 less
    rintro (less' | ⟨same,-⟩)
    · exact List.lt_asymm less less'
    · exact List.lt_irrefl _ (same ▸ less)

example : mayPrecede "video2" "video10" = true ∧ mayPrecede "video10" "video2" = false := by decide

theorem map_name_filter (entries : List DirectoryEntry) : (entries.filter isCandidate).map (·.name) =
    (namesIn entries).map fun name => Utf8.encode name.toList := by
  induction entries with
  | nil => rfl
  | cons entry entries ih =>
    rw [namesIn] at ih ⊢
    rw [List.filterMap_cons,List.filter_cons,Utf8.fromUTF8?_eq,isCandidate]
    by_cases directory : entry.kind = .directory
    · simp only [directory]
      exact ih
    · rw [if_neg directory]
      cases read : Utf8.decode? entry.name with
      | none =>
        simp only [Option.isSome_none,Bool.and_false]
        exact ih
      | some cs => simp [directory,ih,Utf8.decode?_eq_some_iff.mp read]

/-- What a scan finds are the names in a sorted order. -/
theorem scan_eq (directory : String) (entries : List DirectoryEntry) : scan directory (.ok entries) =
    .ok (((namesIn entries).mergeSort mayPrecede).map (joinPath directory)) := by
  have sorted : candidateNames entries =
      ((namesIn entries).mergeSort mayPrecede).map fun name => Utf8.encode name.toList := by
    have key : ∀ a ∈ namesIn entries, ∀ b ∈ namesIn entries,
        mayPrecede a b = naturalLe (Utf8.encode a.toList) (Utf8.encode b.toList) := fun _ _ _ _ => rfl
    rw [candidateNames,map_name_filter,List.map_mergeSort key]
  rw [scan,Except.map,candidatePaths,sorted,List.map_map]
  congr 2
  funext name
  exact congrArg (joinPath directory) (by rw [Utf8.decodeLossy_encode,String.ofList_toList])

theorem mayPrecede_trans (a b c : String) : mayPrecede a b = true → mayPrecede b c = true → mayPrecede a c = true :=
  naturalLe_trans _ _ _

theorem mayPrecede_total (a b : String) : (mayPrecede a b || mayPrecede b a) = true :=
  naturalLe_total _ _

theorem not_before_self (name : String) : ¬ Before name name := by
  rw [← mayPrecede_iff,← Bool.or_self (mayPrecede name name)]
  exact mayPrecede_total name name

/-- In a sorted list a name that comes before another stands in front of it. -/
theorem sublist_of_before {names : List String} {name other : String} (before : Before name other)
    (sorted : names.Pairwise fun name other => ¬ Before other name) (listed : name ∈ names) (listed' : other ∈ names) :
    [name,other].Sublist names := by
  obtain ⟨front,back,rfl⟩ := List.append_of_mem listed
  rcases List.mem_append.mp listed' with listed' | listed'
  · exact absurd before ((List.pairwise_append.mp sorted).2.2 other listed' name List.mem_cons_self)
  · rcases List.mem_cons.mp listed' with rfl | listed'
    · exact absurd before (not_before_self other)
    · exact List.sublist_append_of_sublist_right ((List.singleton_sublist.mpr listed').cons_cons name)

/-- If no two names are tied, the order they are read in does not matter. -/
theorem mergeSort_eq_of_perm {names others : List String} (same : others.Perm names)
    (distinct : ∀ name ∈ names, ∀ other ∈ names, Tied name other → name = other) :
    others.mergeSort mayPrecede = names.mergeSort mayPrecede := by
  refine List.Perm.eq_of_pairwise ?_ (List.pairwise_mergeSort mayPrecede_trans mayPrecede_total others)
    (List.pairwise_mergeSort mayPrecede_trans mayPrecede_total names)
    ((List.mergeSort_perm others _).trans (same.trans (List.mergeSort_perm names _).symm))
  -- Sorted lists of the same names differ only where two names may stand either way round, and these are tied.
  intro name other listed listed' forward backward
  exact distinct name (same.mem_iff.mp (List.mem_mergeSort.mp listed)) other (List.mem_mergeSort.mp listed')
    ⟨(mayPrecede_iff other name).mp backward,(mayPrecede_iff name other).mp forward⟩

/-- A scan finds the candidates of a listing, each as often as it was read, as the path of the directory, a slash and
    the name. None stands in front of one that comes before it, and those that are tied stand as they were read; so with
    one stem and numbers that fit in 64 bits a smaller number stands in front of a greater one. Two names are tied if
    and only if they have the same stem and digits that are the same but for zeros in front, or that mean zero or do not
    fit in 64 bits. If no two candidates are tied, it makes no difference in which order the entries are read. -/
theorem scan_in_order (directory : String) (entries : List DirectoryEntry) :
    (∃ front names, Begins directory front ∧ scan directory (.ok entries) = .ok (names.map fun name => front ++ name) ∧
      names.Perm (namesIn entries) ∧
      names.Pairwise (fun name other => ¬ Before other name) ∧
      (∀ name other, Tied name other → [name,other].Sublist (namesIn entries) → [name,other].Sublist names) ∧
      ∀ name ∈ names, ∀ other ∈ names, ∀ stem digits digits', Parted name stem digits → Parted other stem digits' →
        decimal digits < decimal digits' → decimal digits' < UInt64.size → [name,other].Sublist names) ∧
    (∀ name other, Tied name other ↔ ∃ stem digits digits', Parted name stem digits ∧ Parted other stem digits' ∧
      (ZerosApart digits digits' ∨ (decimal digits = 0 ∨ UInt64.size ≤ decimal digits) ∧
        (decimal digits' = 0 ∨ UInt64.size ≤ decimal digits'))) ∧
    ∀ others, others.Perm entries →
      (∀ name ∈ namesIn entries, ∀ other ∈ namesIn entries, Tied name other → name = other) →
      scan directory (.ok others) = scan directory (.ok entries) := by
  have sorted : ((namesIn entries).mergeSort mayPrecede).Pairwise fun name other => ¬ Before other name :=
    (List.pairwise_mergeSort mayPrecede_trans mayPrecede_total _).imp fun precedes => (mayPrecede_iff _ _).mp precedes
  obtain ⟨front,begins,joined⟩ := exists_begins directory
  have found := scan_eq directory entries
  rw [funext joined] at found
  refine ⟨⟨front,_,begins,found,List.mergeSort_perm _ _,sorted,?_,?_⟩,?_,?_⟩
  · intro name other tied
    exact List.pair_sublist_mergeSort mayPrecede_trans mayPrecede_total ((mayPrecede_iff name other).mpr tied.2)
  · intro name listed other listed' stem digits digits' parted parted' less fits
    have before := (parted.before_iff_of_fits parted' (Nat.lt_trans less fits) fits).mpr less
    exact sublist_of_before before sorted listed listed'
  · intro name other
    rw [tied_iff]
    refine exists_congr fun stem => exists_congr fun digits => exists_congr fun digits' => ?_
    refine and_congr_right fun parted => and_congr_right fun parted' => ?_
    exact counted_eq_iff parted.digit parted'.digit
  · intro others same distinct
    have names : (namesIn others).Perm (namesIn entries) := same.filterMap _
    rw [scan_eq,scan_eq,mergeSort_eq_of_perm names distinct]

end VideoCapture.Kernel
