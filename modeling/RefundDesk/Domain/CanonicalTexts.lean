import Mathlib.Data.Set.Function
import RefundDesk.Domain.Types
import RefundDesk.Library.JsonIntegers

namespace RefundDesk

open Utf16

theorem StripeEnvironment.text_injective : Function.Injective StripeEnvironment.text := by
  intro a b h
  cases a <;> cases b <;> simp_all [StripeEnvironment.text]

theorem ResourceType.text_injective : Function.Injective ResourceType.text := by
  intro a b h
  cases a <;> cases b <;> simp_all [ResourceType.text]

theorem RefundReason.text_injective : Function.Injective RefundReason.text := by
  intro a b h
  cases a <;> cases b <;> simp_all [RefundReason.text]

theorem nat_toString_injective : Function.Injective (toString : Nat → String) :=
  fun _ _ => Nat.repr_injective

theorem int_toString_injective : Function.Injective (toString : Int → String) :=
  fun _ _ => Int.repr_injective

-- A field of a text that is signed
inductive CanonicalField
  | text (s : String)
  | integer (n : Int)
  | null
  deriving DecidableEq, Repr

def CanonicalField.json : CanonicalField → Json Int
  | text s    => .str (ofString s)
  | integer n => .num n
  | null      => .null

-- `JSON.stringify` of the array of the fields
def stringifyFields (fields : List CanonicalField) : Text :=
  Json.print Json.integerFormat (.arr (fields.map CanonicalField.json))

theorem CanonicalField.json_injective : Function.Injective CanonicalField.json := by
  intro field field' h
  cases field with
  | text s    =>
    cases field' with
    | text s'   => rw [ofString_injective (Json.str.inj h)]
    | integer _ => cases h
    | null      => cases h
  | integer n =>
    cases field' with
    | text _     => cases h
    | integer n' => rw [Json.num.inj h]
    | null       => cases h
  | null      =>
    cases field' with
    | text _    => cases h
    | integer _ => cases h
    | null      => rfl

-- No two lists of fields have one text, wherever their borders are.
theorem stringifyFields_injective : Function.Injective stringifyFields := by
  have hfield (field : CanonicalField) : field.json.WellFormed := by
    cases field with
    | text s    => exact .str
    | integer n => exact .num
    | null      => exact .null
  have hformed (fields : List CanonicalField) :
      Json.WellFormed (.arr (fields.map CanonicalField.json)) :=
    .arr (List.forall_mem_map.mpr fun field _ => hfield field)
  intro fields fields' h
  have hitems := Json.arr.inj (Json.print_injective (hformed fields) (hformed fields') h)
  exact List.map_injective_iff.mpr CanonicalField.json_injective hitems

-- No two of the texts have one digest under a key.
def HmacInjectiveOn {δ : Type} (hmac : String → Text → δ) (texts : Set Text) : Prop :=
  ∀ key, Set.InjOn (hmac key) texts

end RefundDesk
