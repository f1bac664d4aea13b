import Tunables.Failure

namespace Tunables

structure Setting where
  name : Text
  value : Text
  deriving DecidableEq, Repr

namespace Setting

def render (setting : Setting) : Text := setting.name ++ .char '=' :: setting.value

def line (setting : Setting) : Text := setting.value ++ [.char '\n']

def parse (text : Text) : Except Failure Setting :=
  match Text.cut? '=' text with
  | none => .error (.noEquals text)
  | some (name, value) =>
    if name = [] ∨ value = [] then .error (.malformedSetting text []) else .ok ⟨name, value⟩

theorem hasStray_render (setting : Setting) :
    setting.render.hasStray = (setting.name.hasStray || setting.value.hasStray) :=
  Text.hasStray_append setting.name _

theorem hasStray_line (setting : Setting) : setting.line.hasStray = setting.value.hasStray := by
  rw [line, Text.hasStray_append]
  exact Bool.or_false _

theorem parse_render {setting : Setting} (plain : .char '=' ∉ setting.name)
    (named : setting.name ≠ []) (valued : setting.value ≠ []) :
    parse setting.render = .ok setting := by
  simp [parse, render, Text.cut?_append _ plain, named, valued]

theorem eq_render_of_parse {text : Text} {setting : Setting} (parsed : parse text = .ok setting) :
    text = setting.render ∧ .char '=' ∉ setting.name ∧ setting.name ≠ [] ∧ setting.value ≠ [] := by
  unfold parse at parsed
  split at parsed
  · cases parsed
  · rename_i name value cut
    split at parsed
    · cases parsed
    · rename_i filled
      cases parsed
      simp only [not_or] at filled
      exact ⟨(Text.eq_of_cut? cut).1, (Text.eq_of_cut? cut).2, filled.1, filled.2⟩

end Setting

end Tunables
