import Mathlib.Algebra.Group.Nat.Defs
import Mathlib.Tactic.Common

-- The bytes of a number: seven bits each, low group first, and all but the last say that
-- more follow. Groups of zeros at the end spell the same number again.
inductive Varint : List UInt8 → Nat → Prop where
  | last {byte : UInt8} {value : Nat} (hlast : value < 128) (hbyte : byte.toNat = value) :
      Varint [byte] value
  | more {byte : UInt8} {rest : List UInt8} {value : Nat}
      (hbyte : byte.toNat = value % 128 + 128) (hrest : Varint rest (value / 128)) :
      Varint (byte :: rest) value

namespace Varint

variable {bytes other : List UInt8} {value : Nat}

theorem length_pos (h : Varint bytes value) : 0 < bytes.length := by
  cases h <;> simp

theorem lt_pow (h : Varint bytes value) : value < 128 ^ bytes.length := by
  induction h with
  | last hlast _ => rwa [List.length_singleton, Nat.pow_one]
  | @more byte rest value hbyte hrest ih =>
      rw [List.length_cons, Nat.pow_succ]
      omega

-- A number has one spelling of each length.
theorem eq_of_length_eq (h : Varint bytes value) (hother : Varint other value)
    (hlength : bytes.length = other.length) : bytes = other := by
  induction h generalizing other with
  | last hlast hbyte =>
      cases hother with
      | last _ hsame => rw [UInt8.toNat_inj.mp (hbyte.trans hsame.symm)]
      | more _ hrest =>
          have hpos := hrest.length_pos
          simp only [List.length_cons, List.length_nil] at hlength
          omega
  | more hbyte hrest ih =>
      cases hother with
      | last _ _ =>
          have hpos := hrest.length_pos
          simp only [List.length_cons, List.length_nil] at hlength
          omega
      | more hsame hother =>
          rw [UInt8.toNat_inj.mp (hbyte.trans hsame.symm), ih hother (by simpa using hlength)]

end Varint
