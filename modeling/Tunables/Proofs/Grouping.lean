import Tunables.Proofs.Merging

namespace Tunables

theorem Items.ext_contains {first second : Items}
    (same : ∀ item, first.contains item = second.contains item) : first = second := by
  obtain ⟨_, _, _⟩ := first
  obtain ⟨_, _, _⟩ := second
  rw [Items.mk.injEq]
  exact ⟨same .root, same .preload, same .log⟩

namespace Config

theorem ext_items {first second : Config} (paths : ∀ item, first.path? item = second.path? item)
    (given : ∀ item, first.given.contains item = second.given.contains item) :
    first = second := by
  obtain ⟨_, _, _, _⟩ := first
  obtain ⟨_, _, _, _⟩ := second
  rw [Config.mk.injEq]
  exact ⟨Option.some.inj (paths .root), Option.some.inj (paths .preload), paths .log,
    Items.ext_contains given⟩

theorem merge_assoc (below middle above : Config) :
    (below.merge middle).merge above = below.merge (middle.merge above) := by
  apply ext_items
  · intro item
    simp only [path?_merge, contains_merge]
    -- Where the topmost one gives the item it decides on both sides; where not, both leave it out.
    cases above.given.contains item with
    | true => simp
    | false => simp
  · intro item
    simp only [contains_merge, Bool.or_assoc]

instance : Std.Associative merge := ⟨merge_assoc⟩

theorem merge_self (config : Config) : config.merge config = config := by
  apply ext_items
  · intro item
    rw [path?_merge, ite_self]
  · intro item
    rw [contains_merge, Bool.or_self]

theorem merge_merge_self (base overlay : Config) :
    (base.merge overlay).merge overlay = base.merge overlay :=
  calc (base.merge overlay).merge overlay
      = base.merge (overlay.merge overlay) := merge_assoc base overlay overlay
    _ = base.merge overlay := by rw [merge_self]

/-- What a text does not set is standard, so that it can be put on the standard configuration and
stays as it is. -/
theorem standard_merge_of_parse {homes : Homes} {text : Text} {config : Config}
    (read : parse homes text = .ok config) : standard.merge config = config := by
  have merged := parseLines_merge homes 0 1 standard standard (Blank.lines text)
  rw [merge_standard, Nat.zero_add, ← parse, read] at merged
  exact (Except.ok.inj merged).symm

/-- In which grouping configurations are merged. -/
inductive Grouping
  | layer (config : Config)
  | stacked (below above : Grouping)

namespace Grouping

def layers : Grouping → List Config
  | layer config => [config]
  | stacked below above => below.layers ++ above.layers

def merged : Grouping → Config
  | layer config => config
  | stacked below above => below.merged.merge above.merged

/-- Whatever the grouping, the result is that of putting one layer after the other on the lowest. -/
theorem merged_eq_foldl (grouping : Grouping) : ∃ lowest others,
    grouping.layers = lowest :: others ∧ grouping.merged = others.foldl merge lowest := by
  induction grouping with
  | layer config => exact ⟨config, [], rfl, rfl⟩
  | stacked below above ihBelow ihAbove =>
    obtain ⟨lowest, others, layers, merged⟩ := ihBelow
    obtain ⟨next, further, layers', merged'⟩ := ihAbove
    refine ⟨lowest, others ++ next :: further, ?_, ?_⟩
    · rw [Grouping.layers, layers, layers', List.cons_append]
    · rw [Grouping.merged, merged, merged', List.foldl_append, List.foldl_cons, List.foldl_assoc]

theorem merged_eq_of_layers {first second : Grouping} (same : first.layers = second.layers) :
    first.merged = second.merged := by
  obtain ⟨lowest, others, layers, merged⟩ := first.merged_eq_foldl
  obtain ⟨lowest', others', layers', merged'⟩ := second.merged_eq_foldl
  rw [layers, layers', List.cons.injEq] at same
  rw [merged, merged', same.1, same.2]

end Grouping

/-- Only the order of the layers counts, not their grouping. A layer that gives nothing changes
nothing, nor does one that is on top already; and what a text gives has all of the standard
configuration in it. -/
theorem merge_in_any_grouping :
    (∀ below middle above : Config,
      (below.merge middle).merge above = below.merge (middle.merge above)) ∧
    (∀ first second : Grouping, first.layers = second.layers → first.merged = second.merged) ∧
    (∀ base overlay : Config, overlay.given = .empty → base.merge overlay = base) ∧
    (∀ (homes : Homes) (text : Text) (config : Config),
      parse homes text = .ok config → standard.merge config = config) ∧
    ∀ base overlay : Config, (base.merge overlay).merge overlay = base.merge overlay := by
  refine ⟨merge_assoc, ?_, ?_, ?_, merge_merge_self⟩
  · intro first second same
    exact Grouping.merged_eq_of_layers same
  · intro base overlay nothing
    exact merge_of_empty nothing base
  · intro homes text config read
    exact standard_merge_of_parse read

/-- The upper text gives the standard root back, which wins over the root of the lower one. -/
theorem merge_in_any_grouping_of_texts :
    ∃ user named : Config,
      parse ⟨"home".text, []⟩ "set root a\nset log b\n".text = .ok user ∧
      parse ⟨"home".text, []⟩ "SET root /proc/sys\n".text = .ok named ∧
      standard.merge user = user ∧
      ((standard.merge user).merge named).root = standard.root ∧
      (Grouping.stacked (.stacked (.layer standard) (.layer user)) (.layer named)).merged =
        (Grouping.stacked (.layer standard) (.stacked (.layer user) (.layer named))).merged ∧
      (user.merge named).merge { user with given := .empty } = user.merge named := by
  obtain ⟨-, grouped, nothing, parsed, -⟩ := merge_in_any_grouping
  have user : parse ⟨"home".text, []⟩ "set root a\nset log b\n".text =
      .ok (assign [(.root, ⟨.relative, ["a".text]⟩), (.log, ⟨.relative, ["b".text]⟩)]
        standard) := rfl
  have named : parse ⟨"home".text, []⟩ "SET root /proc/sys\n".text =
      .ok (assign [(.root, standard.root)] standard) := rfl
  exact ⟨_, _, user, named, parsed _ _ _ user, by decide, grouped _ _ rfl, nothing _ _ rfl⟩

end Config

end Tunables
