/-!
ASCII letters in either case. Texts are the same but for case if their small forms agree, and then
their capital forms do.
-/
namespace PluginRelease.Text

theorem toLower_toUpper (c : Char) : c.toUpper.toLower = c.toLower := by
  apply Char.ext
  apply UInt32.toNat_inj.mp
  delta Char.toLower Char.toUpper
  simp only [UInt32.le_iff_toNat_le]
  split <;> split <;> grind [UInt32.toNat_add, Char.toNat_val]

theorem toUpper_toLower (c : Char) : c.toLower.toUpper = c.toUpper := by
  apply Char.ext
  apply UInt32.toNat_inj.mp
  delta Char.toLower Char.toUpper
  simp only [UInt32.le_iff_toNat_le]
  split <;> split <;> grind [UInt32.toNat_add, Char.toNat_val]

def SameButCase (a b : String) : Prop := a.toList.map Char.toLower = b.toList.map Char.toLower

instance (a b : String) : Decidable (SameButCase a b) := inferInstanceAs (Decidable (_ = _))

theorem sameButCase_iff {a b : String} :
    SameButCase a b ↔ a.toList.map Char.toUpper = b.toList.map Char.toUpper := by
  constructor
  · intro h
    have hupper := congrArg (List.map Char.toUpper) h
    simpa [Function.comp_def, toUpper_toLower] using hupper
  · intro h
    have hlower := congrArg (List.map Char.toLower) h
    simpa [SameButCase, Function.comp_def, toLower_toUpper] using hlower

end PluginRelease.Text
