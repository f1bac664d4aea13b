import Tunables.Command
import Tunables.Proofs.Outcomes

namespace Tunables

namespace Command

def live (arguments : List Text) : List Text := arguments.takeWhile (· ≠ [])

def isSwitch (letter : Char) (argument : Text) : Bool := argument.take 2 = [.char '-', .char letter]

def isDisplaySwitch (argument : Text) : Bool := isSwitch 'n' argument || isSwitch 'b' argument

def displayOf (given : List Text) : Display where
  names := given.isEmpty
  newline := !given.any (isSwitch 'b')

def preloadSource (config : Config) : List Text → Path
  | [] => config.preload
  | source :: _ => Path.ofText source

def printed (status : Status) (out err : Text) : Action Status :=
  fun system => ⟨.ok status, out, err, system⟩

def request (program : Text) (config : Config) (display : Display) : List Text → Action Status
  | [] => Action.pure .success
  | first :: later =>
    if isSwitch 'w' first then
      Action.all (later.map (Access.writeSetting config.root display))
    else if isSwitch 'p' first then
      (Preload.apply (preloadSource config later) config.root display).map fun _ => .success
    else if isSwitch 'a' first || isSwitch 'A' first || isSwitch 'X' first then
      Listing.displayAll config.root display config.root
    else if isSwitch 'h' first || isSwitch '?' first then
      printed .failure (usageText program) []
    else if first.head? = some (.char '-') then
      printed .failure (usageText program) (unknownSwitch first ++ [.char '\n'])
    else
      (Action.all ((first :: later).map (Access.readSetting config.root display))).map
        fun _ => .success

def grammar (program : Text) (config : Config) (arguments : List Text) : Action Status :=
  if arguments = [] then printed .failure (usageText program) []
  else
    request program config (displayOf ((live arguments).takeWhile isDisplaySwitch))
      ((live arguments).dropWhile isDisplaySwitch)

theorem usage_eq (program : Text) :
    usage program = printed .failure (usageText program) [] := by
  funext system
  simp [usage, printed, bind, Action.bind, Action.write, Action.pure]

theorem warn_usage_eq (program line : Text) :
    (do Action.warn line; usage program) =
      printed .failure (usageText program) (line ++ [.char '\n']) := by
  funext system
  simp [usage_eq, printed, bind, Action.bind, Action.warn]

theorem live_cons {argument : Text} (filled : argument ≠ []) (rest : List Text) :
    live (argument :: rest) = argument :: live rest := by
  simp [live, filled]

theorem writeEach_eq_all (config : Config) (display : Display) (arguments : List Text) :
    writeEach config display arguments =
      Action.all ((live arguments).map (Access.writeSetting config.root display)) := by
  induction arguments with
  | nil => rfl
  | cons argument rest ih =>
    by_cases empty : argument = []
    · simp [writeEach, live, empty, Action.all]
    · rw [live_cons empty, List.map_cons, Action.all, writeEach, if_neg empty, ih]

theorem readEach_eq_all (config : Config) (display : Display) (arguments : List Text) :
    readEach config display arguments =
      (Action.all ((live arguments).map (Access.readSetting config.root display))).map
        fun _ => .success := by
  induction arguments with
  | nil => rfl
  | cons argument rest ih =>
    by_cases empty : argument = []
    · simp [readEach, live, empty, Action.all]
      rfl
    · rw [live_cons empty, List.map_cons, Action.all, readEach, if_neg empty, Action.map_also, ih]

theorem preloadNext_eq (config : Config) (display : Display) (rest : List Text) :
    preloadNext config display rest =
      (Preload.apply (preloadSource config (live rest)) config.root display).map
        fun _ => .success := by
  rw [Action.map_eq_bind]
  rcases rest with _ | ⟨_ | ⟨c, name⟩, rest⟩
  · rfl
  · rfl
  · rw [live_cons (List.cons_ne_nil c name)]
    rfl

theorem isSwitch_dash (letter : Char) (letters : Text) :
    isSwitch letter (.char '-' :: letters) = decide (letters.head? = some (.char letter)) := by
  cases letters <;> simp [isSwitch]

theorem isSwitch_of_ne {c : Symbol} (plain : c ≠ '-') (letter : Char) (letters : Text) :
    isSwitch letter (c :: letters) = false := by
  simp [isSwitch, plain]

theorem displayOf_append (given : List Text) (argument : Text) :
    displayOf (given ++ [argument]) =
      ⟨false, (displayOf given).newline && !isSwitch 'b' argument⟩ := by
  simp [displayOf]

theorem switches_cons_of_display (program : Text) (config : Config) (given : List Text)
    {argument : Text} (rest : List Text) (display : isDisplaySwitch argument = true) :
    switches program config (displayOf given) (argument :: rest) =
      switches program config (displayOf (given ++ [argument])) rest := by
  rw [displayOf_append]
  rcases argument with _ | ⟨c, letters⟩
  · simp [isDisplaySwitch, isSwitch] at display
  by_cases dash : c = '-'
  · subst dash
    simp only [isDisplaySwitch, isSwitch_dash, Bool.or_eq_true, decide_eq_true_eq] at display
    rcases display with letter | letter
    · simp [switches, isSwitch_dash, letter]
    · simp [switches, isSwitch_dash, letter]
  · simp [isDisplaySwitch, isSwitch_of_ne dash] at display

theorem switches_cons_of_request (program : Text) (config : Config) (display : Display)
    {argument : Text} (rest : List Text) (filled : argument ≠ [])
    (other : isDisplaySwitch argument = false) :
    switches program config display (argument :: rest) =
      request program config display (argument :: live rest) := by
  rcases argument with _ | ⟨c, letters⟩
  · exact absurd rfl filled
  by_cases dash : c = '-'
  · subst dash
    simp only [isDisplaySwitch, isSwitch_dash, Bool.or_eq_false_iff,
      decide_eq_false_iff_not] at other
    rw [switches, request]
    simp only [isSwitch_dash]
    split
    · rename_i letter
      exact absurd letter other.2
    · rename_i letter
      exact absurd letter other.1
    · rename_i letter
      simp [letter, writeEach_eq_all]
    · rename_i letter
      simp [letter, preloadNext_eq]
    · rename_i letter
      simp [letter]
    · rename_i letter
      simp [letter]
    · rename_i letter
      simp [letter]
    · rename_i letter
      simp [letter, usage_eq]
    · rename_i letter
      simp [letter, usage_eq]
    · rename_i notW notP notA notUpperA notX notH notMark
      simp only [decide_eq_true_eq, Bool.or_eq_true]
      rw [if_neg notW, if_neg notP, if_neg (not_or.mpr ⟨not_or.mpr ⟨notA, notUpperA⟩, notX⟩),
        if_neg (not_or.mpr ⟨notH, notMark⟩), if_pos List.head?_cons]
      exact warn_usage_eq program _
  · have named : switches program config display ((c :: letters) :: rest) =
        readEach config display ((c :: letters) :: rest) := by
      rw [switches]
      · exact filled
      · rintro letters' same
        exact dash (List.cons.inj same).1
    rw [named, readEach_eq_all, live_cons filled, request]
    simp only [isSwitch_of_ne dash, Bool.or_self, Bool.false_eq_true, if_false, List.head?_cons,
      Option.some.injEq, dash]

/-- The switches seen so far are all that the rest of the line needs to know. -/
theorem switches_eq_request (program : Text) (config : Config) (given arguments : List Text) :
    switches program config (displayOf given) arguments =
      request program config
        (displayOf (given ++ (live arguments).takeWhile isDisplaySwitch))
        ((live arguments).dropWhile isDisplaySwitch) := by
  induction arguments generalizing given with
  | nil => simp [switches, live, request]
  | cons argument rest ih =>
    by_cases empty : argument = []
    · simp [switches, live, request, empty]
    rw [live_cons empty]
    cases display : isDisplaySwitch argument with
    | true =>
      rw [switches_cons_of_display program config given rest display, ih,
        List.takeWhile_cons_of_pos display, List.dropWhile_cons_of_pos display, List.append_assoc,
        List.singleton_append]
    | false =>
      rw [switches_cons_of_request program config _ rest empty display,
        List.takeWhile_cons_of_neg (by simp [display]),
        List.dropWhile_cons_of_neg (by simp [display]), List.append_nil]

/-- The command line does what its grammar says: the same result, output and effect. -/
theorem run_eq_grammar (program : Text) (config : Config) (arguments : List Text) :
    run program config arguments = grammar program config arguments := by
  cases arguments with
  | nil => exact usage_eq program
  | cons argument rest =>
    rw [grammar, if_neg (List.cons_ne_nil argument rest)]
    exact switches_eq_request program config [] (argument :: rest)

end Command

end Tunables
