import VideoCapture.Packed
import VideoCapture.Settings.Store
import Mathlib.Data.Nat.Bitwise
/-!
# Numbers in the settings

Two terms of 16 bits are packed into one number, and a number of 32 bits is stored as a whole number of 64. Main
statements: terms that fit come back from their number, a number from its terms (`unpack_pack`, `pack_unpack`),
and a stored number is the one that was stored (`Settings.getWord_of_lookup`).
-/
namespace VideoCapture

/-! ### Packing -/

theorem toNat_pack (a b : UInt32) : (pack a b).toNat = a.toNat % 65536 * 65536 + b.toNat % 65536 := by
  have low : b.toNat &&& 65535 = b.toNat % 65536 := Nat.and_two_pow_sub_one_eq_mod b.toNat 16
  have high : a.toNat <<< 16 % 4294967296 = (a.toNat % 65536) <<< 16 := by
    rw [Nat.shiftLeft_eq,Nat.shiftLeft_eq]
    omega
  have below : b.toNat % 65536 < 2 ^ 16 := Nat.mod_lt _ (by decide)
  rw [pack,UInt32.toNat_or,UInt32.toNat_shiftLeft,UInt32.toNat_and]
  change a.toNat <<< 16 % 4294967296 ||| (b.toNat &&& 65535) = _
  rw [low,high,← Nat.shiftLeft_add_eq_or_of_lt below,Nat.shiftLeft_eq]

/-- The terms of a number are its two halves. -/
theorem unpack_eq (n : UInt32) : unpack n = (n / 65536,n % 65536) := by
  have low : n.toNat &&& 65535 = n.toNat % 65536 := Nat.and_two_pow_sub_one_eq_mod n.toNat 16
  rw [unpack,Prod.mk.injEq,← UInt32.toNat_inj,← UInt32.toNat_inj,UInt32.toNat_div,UInt32.toNat_mod,
    UInt32.toNat_shiftRight,UInt32.toNat_and]
  change n.toNat >>> 16 = n.toNat / 65536 ∧ n.toNat &&& 65535 = n.toNat % 65536
  exact ⟨Nat.shiftRight_eq_div_pow n.toNat 16,low⟩

/-- What is packed comes back modulo 2¹⁶. -/
theorem unpack_pack (a b : UInt32) : unpack (pack a b) = (a % 65536,b % 65536) := by
  have packed := toNat_pack a b
  rw [unpack_eq,Prod.mk.injEq,← UInt32.toNat_inj,← UInt32.toNat_inj,UInt32.toNat_mod,UInt32.toNat_mod,UInt32.toNat_mod,
    UInt32.toNat_div]
  change (pack a b).toNat / 65536 = a.toNat % 65536 ∧ (pack a b).toNat % 65536 = b.toNat % 65536
  omega

theorem pack_eq_iff (a b a' b' : UInt32) : pack a b = pack a' b' ↔ a % 65536 = a' % 65536 ∧ b % 65536 = b' % 65536 := by
  have left := toNat_pack a b
  have right := toNat_pack a' b'
  rw [← UInt32.toNat_inj,← UInt32.toNat_inj,← UInt32.toNat_inj,UInt32.toNat_mod,UInt32.toNat_mod,UInt32.toNat_mod,
    UInt32.toNat_mod,left,right]
  change _ ↔ a.toNat % 65536 = a'.toNat % 65536 ∧ b.toNat % 65536 = b'.toNat % 65536
  omega

theorem mod_eq_self_iff (n : UInt32) : n % 65536 = n ↔ n < 65536 := by
  rw [← UInt32.toNat_inj,UInt32.toNat_mod,UInt32.lt_iff_toNat_lt]
  change n.toNat % 65536 = n.toNat ↔ n.toNat < 65536
  omega

/-- Every number is the one that its terms are packed into. -/
theorem pack_unpack (n : UInt32) : pack (unpack n).1 (unpack n).2 = n := by
  have below := n.toNat_lt
  rw [unpack_eq,← UInt32.toNat_inj,toNat_pack,UInt32.toNat_div,UInt32.toNat_mod]
  change n.toNat / 65536 % 65536 * 65536 + n.toNat % 65536 % 65536 = n.toNat
  omega

/-- The terms of a number have 16 bits each. -/
theorem unpack_lt (n : UInt32) : (unpack n).1 < 65536 ∧ (unpack n).2 < 65536 := by
  have below := n.toNat_lt
  rw [unpack_eq,UInt32.lt_iff_toNat_lt,UInt32.lt_iff_toNat_lt,UInt32.toNat_div,UInt32.toNat_mod]
  change n.toNat / 65536 < 65536 ∧ n.toNat % 65536 < 65536
  omega

/-! ### Storing -/

namespace Settings

theorem getWord_of_lookup {settings : Settings} {key : String} {n : UInt32}
    (stored : settings.lookup key = some (.int n.toUInt64.toInt64)) : settings.getWord key = n := by
  rw [getWord,getInt,stored,UInt64.toUInt64_toInt64,UInt32.toUInt32_toUInt64]

theorem getWord_setWord (settings : Settings) (key : String) (n : UInt32) :
    (settings.setWord key n).getWord key = n := by
  apply getWord_of_lookup
  rw [lookup,setWord,setInt,set,KeyMap.find?_insert,if_pos rfl]
  rfl

end Settings
end VideoCapture
