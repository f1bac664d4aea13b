import Tunables.Proofs.Effects

namespace Tunables.Command

inductive Mode
  | usage (complaint : Text)
  | write (texts : List Text)
  | preload (named : List Text)
  | list
  | read (keys : List Text)
  deriving DecidableEq

def modeOf : List Text → Mode
  | [] => .read []
  | first :: later =>
    if isSwitch 'w' first then .write later
    else if isSwitch 'p' first then .preload later
    else if isSwitch 'a' first || isSwitch 'A' first || isSwitch 'X' first then .list
    else if isSwitch 'h' first || isSwitch '?' first then .usage []
    else if first.head? = some (.char '-') then .usage (unknownSwitch first ++ [.char '\n'])
    else .read (first :: later)

def mode (arguments : List Text) : Mode :=
  if arguments = [] then .usage [] else modeOf (asked arguments)

def Mode.act (program : Text) (config : Config) (display : Display) : Mode → Action Status
  | usage complaint => printed .failure (usageText program) complaint
  | write texts => Action.all (texts.map (Access.writeSetting config.root display))
  | preload named =>
    (Preload.apply (preloadSource config named) config.root display).map fun _ => .success
  | list => Listing.displayAll config.root display config.root
  | read keys =>
    (Action.all (keys.map (Access.readSetting config.root display))).map fun _ => .success

theorem request_eq_act (program : Text) (config : Config) (display : Display)
    (arguments : List Text) :
    request program config display arguments =
      (modeOf arguments).act program config display := by
  cases arguments with
  | nil => rfl
  | cons first later =>
    rw [request, modeOf]
    repeat' split
    all_goals rfl

theorem run_eq_act (program : Text) (config : Config) (arguments : List Text) :
    run program config arguments = (mode arguments).act program config (shown arguments) := by
  by_cases given : arguments = []
  · rw [given, run, usage_eq]
    rfl
  · rw [run_eq_request program config given, request_eq_act, mode, if_neg given]

variable {flags rest : List Text} {first : Text}

theorem asked_flags (displayed : ∀ flag ∈ flags, isDisplaySwitch flag = true)
    (other : isDisplaySwitch first = false) (filled : ∀ argument ∈ first :: rest, argument ≠ []) :
    asked (flags ++ first :: rest) = first :: rest :=
  (live_flags displayed other filled).2

theorem shown_flags (displayed : ∀ flag ∈ flags, isDisplaySwitch flag = true)
    (other : isDisplaySwitch first = false) (filled : ∀ argument ∈ first :: rest, argument ≠ []) :
    shown (flags ++ first :: rest) = displayOf flags := by
  rw [shown, (live_flags displayed other filled).1]

theorem mode_flags (displayed : ∀ flag ∈ flags, isDisplaySwitch flag = true)
    (other : isDisplaySwitch first = false) (filled : ∀ argument ∈ first :: rest, argument ≠ []) :
    mode (flags ++ first :: rest) = modeOf (first :: rest) := by
  have given : flags ++ first :: rest ≠ [] :=
    List.append_ne_nil_of_right_ne_nil flags (List.cons_ne_nil _ _)
  rw [mode, if_neg given, asked_flags displayed other filled]

end Tunables.Command
