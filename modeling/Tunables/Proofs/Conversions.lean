import Mathlib.Data.Set.Function
import Tunables.Proofs.Interchange

namespace Tunables.Key

structure Preserves (convert : Text → Text) : Prop where
  again : ∀ text, convert (convert text) = convert text
  length : ∀ text, (convert text).length = text.length
  others : ∀ (text : Text) (index : Nat) (c : Symbol), isDelimiter c = false →
    ((convert text)[index]? = some c ↔ text[index]? = some c)

variable {text : Text}

theorem preserves_of_eq_or {convert : Text → Text}
    (again : ∀ text, convert (convert text) = convert text)
    (either : ∀ text, convert text = text ∨ convert text = text.map exchange) :
    Preserves convert where
  again := again
  length := by
    intro text
    rcases either text with same | exchanged
    · rw [same]
    · rw [exchanged, List.length_map]
  others := by
    intro text index c plain
    rcases either text with same | exchanged
    · rw [same]
    · rw [exchanged, List.getElem?_map, Option.map_eq_some_iff]
      constructor
      · intro moved
        obtain ⟨d, found, same⟩ := moved
        rw [found, (exchange_eq_iff plain).mp same]
      · intro found
        exact ⟨c, found, (exchange_eq_iff plain).mpr rfl⟩

theorem firstDelimiter?_toPath (key : Text) : firstDelimiter? (toPath key) ≠ some (.char '.') := by
  unfold toPath
  split
  · rename_i dot
    rw [firstDelimiter?_map_exchange, dot]
    decide
  · assumption

theorem toPath_toPath (key : Text) : toPath (toPath key) = toPath key :=
  if_neg (firstDelimiter?_toPath key)

theorem ofPath_toPath_eq_self_iff :
    ofPath (toPath text) = text ↔ firstDelimiter? text ≠ some (.char '/') := by
  constructor
  · intro back
    rw [← back]
    exact firstDelimiter?_ofPath (toPath text)
  · exact ofPath_toPath

theorem toPath_ofPath_eq_self_iff :
    toPath (ofPath text) = text ↔ firstDelimiter? text ≠ some (.char '.') := by
  constructor
  · intro back
    rw [← back]
    exact firstDelimiter?_toPath (ofPath text)
  · exact toPath_ofPath

/-- The texts that are dotted already: their first delimiter, if any, is no slash. -/
def dotted : Set Text := {text | firstDelimiter? text ≠ some (.char '/')}

/-- The texts that are slashed already: their first delimiter, if any, is no dot. -/
def slashed : Set Text := {text | firstDelimiter? text ≠ some (.char '.')}

theorem mapsTo_toPath : Set.MapsTo toPath dotted slashed :=
  fun text _ => firstDelimiter?_toPath text

theorem mapsTo_ofPath : Set.MapsTo ofPath slashed dotted :=
  fun text _ => firstDelimiter?_ofPath text

theorem invOn_conversions : Set.InvOn ofPath toPath dotted slashed := by
  constructor
  · intro text inside
    exact ofPath_toPath inside
  · intro text inside
    exact toPath_ofPath inside

/-- A conversion before the other one makes no difference to it, and each keeps the length and all
but the delimiters. One is undone by the other exactly where the text's first delimiter, if any, is
not of the kind that it makes, and so the two are bijections between the dotted and the slashed
texts. -/
theorem conversions_inverse :
    Preserves toPath ∧ Preserves ofPath ∧
    (∀ text, ofPath (toPath text) = ofPath text ∧ toPath (ofPath text) = toPath text) ∧
    (∀ text, ofPath (toPath text) = text ↔ firstDelimiter? text ≠ some (.char '/')) ∧
    (∀ text, toPath (ofPath text) = text ↔ firstDelimiter? text ≠ some (.char '.')) ∧
    Set.InvOn ofPath toPath dotted slashed ∧
    Set.BijOn toPath dotted slashed ∧ Set.BijOn ofPath slashed dotted := by
  refine ⟨preserves_of_eq_or toPath_toPath toPath_eq_or,
    preserves_of_eq_or ofPath_ofPath ofPath_eq_or, ?_, ?_, ?_, invOn_conversions, ?_, ?_⟩
  · intro text
    exact ⟨ofPath_toPath_eq text, toPath_ofPath_eq text⟩
  · intro text
    exact ofPath_toPath_eq_self_iff
  · intro text
    exact toPath_ofPath_eq_self_iff
  · exact invOn_conversions.bijOn mapsTo_toPath mapsTo_ofPath
  · exact invOn_conversions.symm.bijOn mapsTo_ofPath mapsTo_toPath

/-- A text whose first delimiter is a slash does not come back through its path. -/
example : ofPath (toPath "net/eth0.1".text) = "net.eth0/1".text := by decide

end Tunables.Key
