/-!
# ASCII letters
-/
namespace Proximity.Text
set_option autoImplicit false

/-- The small ASCII letter of a capital ASCII letter, and any other character as it is. -/
def smallAscii (c : Char) : Char :=
  if 'A' ≤ c ∧ c ≤ 'Z' then Char.ofNat (c.toNat + 32) else c

end Proximity.Text
