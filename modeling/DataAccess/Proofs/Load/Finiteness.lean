import DataAccess.Proofs.Load.Binding
import DataAccess.Proofs.Number.Narrowing

-- Numbers in columns that a table already has. What a load takes for a number is finite, and it
-- stays so in a column of doubles; a column of singles takes every number too, but from halfway
-- between the greatest single and the next power of two on it keeps an infinity in its place.
namespace DataAccess.Load
open Number Format Wire

-- The exponent field of a word is full in infinities and NaNs, and only there.
theorem exponent_full (f : Format) (n : Nat) :
    n / f.leadingBit % 2 ^ f.exponentBits ≠ 2 ^ f.exponentBits - 1 ↔ n % f.signBit < f.infinity := by
  have positive := f.leadingBit_pos
  have fraction := Nat.mod_lt n positive
  have field := Nat.mod_lt (n / f.leadingBit) (Nat.two_pow_pos f.exponentBits)
  have split : f.signBit = f.leadingBit * 2 ^ f.exponentBits := by
    unfold signBit leadingBit
    rw [Nat.pow_eq,Nat.pow_eq,Nat.pow_add,Nat.mul_comm]
  unfold infinity
  rw [split,Nat.mod_mul,Nat.pow_eq]
  generalize n / f.leadingBit % 2 ^ f.exponentBits = e at field ⊢
  rw [Nat.mul_comm (2 ^ f.exponentBits - 1)]
  constructor
  · intro other
    have next := Nat.mul_le_mul_left f.leadingBit (show e + 1 ≤ 2 ^ f.exponentBits - 1 by omega)
    rw [Nat.mul_add_one] at next
    omega
  · rintro short rfl
    omega

-- The bytes of a finite number in a format.
def FiniteBytes (f : Format) (width : Nat) (bytes : Text.Bytes) : Prop :=
  ∃ n, word? width bytes = some n ∧ n / f.leadingBit % 2 ^ f.exponentBits ≠ 2 ^ f.exponentBits - 1

theorem finiteBytes_iff {f : Format} (width : Nat) {n : Nat} (fits : n < words width) :
    FiniteBytes f width (ofNat width n) ↔ n % f.signBit < f.infinity := by
  unfold FiniteBytes
  rw [word?_ofNat fits,← exponent_full]
  simp

-- The bytes of a finite number in a column of numbers with a fraction.
inductive FiniteIn : ServerType → Text.Bytes → Prop where
  | single (finite : FiniteBytes binary32 4 bytes) : FiniteIn .float4 bytes
  | double (finite : FiniteBytes binary64 8 bytes) : FiniteIn .float8 bytes

-- Nothing but finite numbers is sent to such a column. A NULL has no bytes.
def StoresFinite (server : ServerType) (v : Value) : Prop :=
  ∀ bytes, encode server v = .ok (some bytes) → FiniteIn server bytes

-- The numbers that a column has no single for.
def TooGreat (server : ServerType) (x : Double) : Prop :=
  server = .float4 ∧ 2 ^ 128 - 2 ^ 103 ≤ |x.value|

theorem finiteIn_single (x : Single) :
    FiniteIn .float4 (encodeSingle x) ↔ x.magnitude < binary32.infinity := by
  unfold Single.magnitude
  rw [← finiteBytes_iff 4 x.bits.toNat_lt]
  constructor
  · rintro ⟨finite⟩
    exact finite
  · exact .single

theorem finiteIn_double (x : Double) : FiniteIn .float8 (encodeDouble x) ↔ x.isFinite := by
  unfold Double.isFinite Double.magnitude
  rw [decide_eq_true_iff,← finiteBytes_iff 8 x.bits.toNat_lt]
  constructor
  · rintro ⟨⟩
    assumption
  · exact .double

-- A cell of a column of numbers with a fraction is blank or a finite number.
theorem ColumnType.toValue_finite (converts : ColumnType.float.toValue cell = .ok v) :
    v = .null ∨ ∃ x, v = .float x ∧ x.isFinite := by
  unfold toValue at converts
  dsimp only at converts
  split at converts
  · cases converts
    exact .inl rfl
  · split at converts
    · rename_i x read
      cases converts
      exact .inr ⟨x,rfl,(Option.filter_eq_some_iff.mp read).2⟩
    · cases converts

theorem storesFinite_sent (sent : encode server v = .ok (some bytes)) :
    StoresFinite server v ↔ FiniteIn server bytes := by
  unfold StoresFinite
  rw [sent]
  simp

theorem storesFinite_null (server : ServerType) : StoresFinite server .null := by
  have none : encode server .null = .ok none := rfl
  rintro bytes sent
  cases none.symm.trans sent

theorem storesFinite_single (number : x.isFinite) :
    StoresFinite .float4 (.float x) ↔ ¬TooGreat .float4 x := by
  rw [storesFinite_sent rfl,finiteIn_single,Double.toSingle_finite number,TooGreat,eq_self,true_and,
    not_le]

theorem storesFinite_double (number : x.isFinite) : StoresFinite .float8 (.float x) :=
  (storesFinite_sent rfl).mpr ((finiteIn_double x).mpr number)

-- Every number that a load makes of a cell is taken by the column that the table has for it, and is
-- finite there unless it is too great for a single; then an infinity of its sign is.
theorem stored_finite_iff {cell dataType : String} {v : Value}
    (converts : ColumnType.float.toValue cell = .ok v)
    (adopted : ColumnType.ofDataType? dataType = some .float) :
    ∃ server, typeNamed? dataType = some server ∧ Encodes server v ∧
      (StoresFinite server v ↔ ¬∃ x, v = .float x ∧ TooGreat server x) ∧
      ∀ x, v = .float x → TooGreat server x →
        encode server v = .ok (some (encodeSingle (Single.infinite x.negative))) := by
  obtain ⟨server,named,fills⟩ := ColumnType.ofDataType_fills adopted
  refine ⟨server,named,?_⟩
  rcases ColumnType.toValue_finite converts with rfl | ⟨x,rfl,number⟩
  · refine ⟨⟨none,rfl⟩,iff_of_true (storesFinite_null server) ?_,nofun⟩
    rintro ⟨_,⟨⟩,_⟩
  · have own : (∃ y, Value.float x = .float y ∧ TooGreat server y) ↔ TooGreat server x := by simp
    rw [own]
    cases fills with
    | single =>
      refine ⟨⟨_,rfl⟩,storesFinite_single number,?_⟩
      rintro _ ⟨⟩ ⟨_,great⟩
      rw [← Double.toSingle_infinite number great]
      rfl
    | double =>
      refine ⟨⟨_,rfl⟩,iff_of_true (storesFinite_double number) nofun,?_⟩
      rintro _ _ ⟨⟨⟩,_⟩
    | text other => rcases other with other | other <;> cases other

namespace Edge

-- Halfway between the greatest single and the next power of two, and the double before that.
def halfway : Double := ⟨0x47effffff0000000⟩

def before : Double := ⟨0x47efffffefffffff⟩

theorem halfway_great : TooGreat .float4 halfway := by
  have parts : binary64.significand halfway.magnitude = 2 ^ 53 - 2 ^ 28 ∧
      binary64.power halfway.magnitude = 75 := by decide +kernel
  refine ⟨rfl,?_⟩
  rw [Double.abs_value,Double.size,parts.1,parts.2]
  norm_num

theorem before_short : ¬TooGreat .float4 before := by
  have parts : binary64.significand before.magnitude = 2 ^ 53 - 2 ^ 28 - 1 ∧
      binary64.power before.magnitude = 75 := by decide +kernel
  rintro ⟨_,great⟩
  rw [Double.abs_value,Double.size,parts.1,parts.2] at great
  norm_num at great

theorem halfway_read : ColumnType.float.toValue "3.4028235677973366e38" = .ok (.float halfway) := by
  decide +kernel

theorem before_read : ColumnType.float.toValue "3.4028235677973362e38" = .ok (.float before) := by
  decide +kernel

end Edge

-- Up to where a column of singles keeps numbers finite.
theorem stored_finite_before_halfway :
    ColumnType.float.toValue "3.4028235677973362e38" = .ok (.float Edge.before) ∧
      ColumnType.float.toValue "3.4028235677973366e38" = .ok (.float Edge.halfway) ∧
      ColumnType.ofDataType? "real" = some .float ∧ StoresFinite .float4 (.float Edge.before) ∧
      encode .float4 (.float Edge.halfway) = .ok (some [0x7f,0x80,0,0]) := by
  have adopted : ColumnType.ofDataType? "real" = some .float := rfl
  refine ⟨Edge.before_read,Edge.halfway_read,adopted,?_,?_⟩
  · obtain ⟨server,⟨⟩,_,finite,_⟩ := stored_finite_iff Edge.before_read adopted
    apply finite.mpr
    rintro ⟨x,⟨⟩,great⟩
    exact Edge.before_short great
  · obtain ⟨server,⟨⟩,_,_,infinite⟩ := stored_finite_iff Edge.halfway_read adopted
    rw [infinite _ rfl Edge.halfway_great]
    decide +kernel

-- A number that a load takes for finite is an infinity for a column of singles.
theorem not_always_finite :
    ¬∀ cell dataType v server, ColumnType.float.toValue cell = .ok v →
      ColumnType.ofDataType? dataType = some .float → typeNamed? dataType = some server →
        StoresFinite server v := by
  intro finite
  have stored := finite _ "real" _ .float4 Edge.halfway_read rfl rfl
  exact (storesFinite_single (by decide +kernel)).mp stored Edge.halfway_great

end DataAccess.Load
