import Tunables.Access
import Tunables.Proofs.Trimming

namespace Tunables

namespace Path

/-- What can stand between two slashes of a path. -/
def IsComponent (part : Text) : Prop := isPart part = true ∧ .char '/' ∉ part

theorem isComponent_ne_nil {part : Text} (component : IsComponent part) : part ≠ [] := by
  have proper := component.1
  simp only [isPart, Bool.and_eq_true, decide_eq_true_eq] at proper
  exact proper.1

theorem render_relative {parts : List Text} (filled : parts ≠ []) :
    render ⟨.relative, parts⟩ = [.char '/'].intercalate parts := by
  simp [render, filled, Anchor.text]

theorem pieces_intercalate {parts : List Text} (filled : parts ≠ [])
    (whole : ∀ part ∈ parts, .char '/' ∉ part) : pieces ([.char '/'].intercalate parts) = parts :=
  List.splitOn_intercalate _ whole filled

theorem filter_pieces_intercalate {parts : List Text} (filled : parts ≠ [])
    (components : ∀ part ∈ parts, IsComponent part) :
    (pieces ([.char '/'].intercalate parts)).filter isPart = parts := by
  rw [pieces_intercalate filled fun part member => (components part member).2]
  exact List.filter_eq_self.mpr fun part member => (components part member).1

theorem parts_ofText_render {parts : List Text} (filled : parts ≠ [])
    (components : ∀ part ∈ parts, IsComponent part) :
    (ofText (render ⟨.relative, parts⟩)).parts = parts := by
  rw [render_relative filled, ofText, filter_pieces_intercalate filled components]

theorem length_intercalate_filter (keep : Text → Bool) (parts : List Text) :
    ([.char '/'].intercalate (parts.filter keep)).length ≤
      ([.char '/'].intercalate parts).length := by
  induction parts with
  | nil => exact Nat.le_refl _
  | cons part rest ih =>
    by_cases last : rest = []
    · subst last
      cases kept : keep part <;> simp [kept]
    · rw [List.intercalate_cons_of_ne_nil last]
      cases kept : keep part with
      | false =>
        simp only [List.filter_cons, kept, List.length_append]
        exact Nat.le_trans ih (Nat.le_add_left _ _)
      | true =>
        by_cases dropped : rest.filter keep = []
        · simp [kept, dropped]
        · simp only [List.filter_cons, kept, if_true, List.intercalate_cons_of_ne_nil dropped,
            List.length_append]
          omega

theorem length_parts_ofText (text : Text) :
    ([.char '/'].intercalate (ofText text).parts).length ≤ text.length := by
  have shorter := length_intercalate_filter isPart (pieces text)
  rwa [pieces, List.intercalate_splitOn] at shorter

theorem mem_intercalate {c : Symbol} {parts : List Text} (other : c ≠ '/') :
    c ∈ [.char '/'].intercalate parts ↔ ∃ part ∈ parts, c ∈ part := by
  induction parts with
  | nil => simp [List.intercalate_nil]
  | cons part rest ih =>
    by_cases last : rest = []
    · simp [last]
    · simp [List.intercalate_cons_of_ne_nil last, ih, other]

theorem mem_iff_exists_piece {c : Symbol} {text : Text} (other : c ≠ '/') :
    c ∈ text ↔ ∃ piece ∈ pieces text, c ∈ piece := by
  rw [← mem_intercalate other, pieces, List.intercalate_splitOn]

theorem hasNul_eq_false {path : Path} :
    path.hasNul = false ↔ ∀ part ∈ path.parts, .char '\x00' ∉ part := by
  simp [hasNul, Text.hasNul]

theorem hasNul_render_relative {parts : List Text} (filled : parts ≠ [])
    (plain : ∀ part ∈ parts, .char '\x00' ∉ part) : .char '\x00' ∉ render ⟨.relative, parts⟩ := by
  rw [render_relative filled, mem_intercalate (by decide)]
  rintro ⟨part, member, nul⟩
  exact plain part member nul

theorem hasNul_join {path : Path} {text : Text} (proper : path.hasNul = false)
    (plain : .char '\x00' ∉ text) : (path.join text).hasNul = false := by
  rw [hasNul_eq_false] at proper ⊢
  intro part member nul
  rcases List.mem_append.mp member with above | below
  · exact proper part above nul
  · have piece : part ∈ pieces (text.dropWhile (· = .char '/')) := (List.mem_filter.mp below).1
    have whole : .char '\x00' ∈ text.dropWhile (· = .char '/') :=
      (mem_iff_exists_piece (by decide)).mpr ⟨part, piece, nul⟩
    exact plain ((List.dropWhile_sublist _).subset whole)

theorem exists_part_of_mem {path : Path} {text : Text} {c : Symbol} (member : c ∈ text)
    (noSlash : c ≠ '/') (noDot : c ≠ '.') : ∃ part ∈ (path.join text).parts, c ∈ part := by
  have kept : c ∈ text.dropWhile (· = .char '/') := by
    rw [← List.takeWhile_append_dropWhile (p := (· = .char '/')) (l := text)] at member
    rcases List.mem_append.mp member with before | behind
    · have slash := List.mem_takeWhile_imp before
      exact absurd (of_decide_eq_true slash) noSlash
    · exact behind
  obtain ⟨part, piece, inside⟩ := (mem_iff_exists_piece noSlash).mp kept
  have proper : isPart part = true := by
    have filled : part ≠ [] := List.ne_nil_of_mem inside
    have notDot : part ≠ dot := by
      rintro rfl
      exact noDot (List.mem_singleton.mp inside)
    simp [isPart, filled, notDot]
  exact ⟨part, List.mem_append_right _ (List.mem_filter.mpr ⟨piece, proper⟩), inside⟩

theorem hasNul_join_of_mem (path : Path) {text : Text} (nul : .char '\x00' ∈ text) :
    (path.join text).hasNul = true := by
  obtain ⟨part, member, inside⟩ := exists_part_of_mem nul (by decide) (by decide)
  exact List.any_eq_true.mpr ⟨part, member, Text.hasNul_iff.mpr inside⟩

theorem append_inj {path : Path} {first second : List Text} :
    path.append first = path.append second ↔ first = second := by
  simp [append]

end Path

namespace Key

theorem firstDelimiter?_append (before behind : Text) :
    firstDelimiter? (before ++ behind) = (firstDelimiter? before).or (firstDelimiter? behind) :=
  List.find?_append

theorem exchange_eq_self {c : Symbol} (dot : c ≠ '.') (slash : c ≠ '/') : exchange c = c := by
  simp [exchange, dot, slash]

theorem map_exchange_eq_self {text : Text} (dots : .char '.' ∉ text) (slashes : .char '/' ∉ text) :
    text.map exchange = text := by
  have kept : ∀ c ∈ text, exchange c = id c := fun c member =>
    exchange_eq_self (fun same => dots (same ▸ member)) fun same => slashes (same ▸ member)
  rw [List.map_congr_left kept, List.map_id]

theorem firstDelimiter?_eq_none {text : Text} (dots : .char '.' ∉ text)
    (slashes : .char '/' ∉ text) : firstDelimiter? text = none := by
  refine List.find?_eq_none.mpr fun c member => ?_
  have notDot : c ≠ '.' := fun same => dots (same ▸ member)
  have notSlash : c ≠ '/' := fun same => slashes (same ▸ member)
  simp [isDelimiter, notDot, notSlash]

theorem firstDelimiter?_eq_dot {text : Text} (dot : .char '.' ∈ text) (slashes : .char '/' ∉ text) :
    firstDelimiter? text = some (.char '.') := by
  cases found : firstDelimiter? text with
  | none => exact absurd rfl (List.find?_eq_none.mp found '.' dot)
  | some c =>
    have delimiter : isDelimiter c = true := List.find?_some found
    have member : c ∈ text := List.mem_of_find?_eq_some found
    simp only [isDelimiter, Bool.or_eq_true, decide_eq_true_eq] at delimiter
    rcases delimiter with rfl | rfl
    · rfl
    · exact absurd member slashes

theorem exchange_eq_iff {c d : Symbol} (plain : isDelimiter d = false) :
    exchange c = d ↔ c = d := by
  simp only [isDelimiter, Bool.or_eq_false_iff, decide_eq_false_iff_not] at plain
  constructor
  · intro same
    have back := congrArg exchange same
    rwa [exchange_exchange, exchange_eq_self plain.1 plain.2] at back
  · rintro rfl
    exact exchange_eq_self plain.1 plain.2

variable {d : Symbol} {path : Text}

theorem toPath_eq_or (key : Text) : toPath key = key ∨ toPath key = key.map exchange := by
  rw [toPath]
  split
  · exact .inr rfl
  · exact .inl rfl

theorem mem_toPath {key : Text} (plain : isDelimiter d = false) : d ∈ toPath key ↔ d ∈ key := by
  rcases toPath_eq_or key with same | same
  · rw [same]
  · simp only [same, List.mem_map, exchange_eq_iff plain, exists_eq_right]

theorem ofPath_eq_or (path : Text) : ofPath path = path ∨ ofPath path = path.map exchange := by
  rw [ofPath]
  split
  · exact .inr rfl
  · exact .inl rfl

theorem mem_ofPath (plain : isDelimiter d = false) : d ∈ ofPath path ↔ d ∈ path := by
  rcases ofPath_eq_or path with same | same
  · rw [same]
  · simp only [same, List.mem_map, exchange_eq_iff plain, exists_eq_right]

theorem head?_ofPath (plain : isDelimiter d = false) :
    (ofPath path).head? = some d ↔ path.head? = some d := by
  rcases ofPath_eq_or path with same | same
  · rw [same]
  · simp only [same, List.head?_map, Option.map_eq_some_iff, exchange_eq_iff plain,
      exists_eq_right]

theorem getLast?_ofPath (plain : isDelimiter d = false) :
    (ofPath path).getLast? = some d ↔ path.getLast? = some d := by
  rcases ofPath_eq_or path with same | same
  · rw [same]
  · simp only [same, List.getLast?_map, Option.map_eq_some_iff, exchange_eq_iff plain,
      exists_eq_right]

theorem ofPath_ne_nil (filled : path ≠ []) : ofPath path ≠ [] := by
  intro empty
  rcases ofPath_eq_or path with same | same
  · exact filled (same.symm.trans empty)
  · exact filled (List.map_eq_nil_iff.mp (same.symm.trans empty))

theorem firstDelimiter?_ofPath (path : Text) :
    firstDelimiter? (ofPath path) ≠ some (.char '/') := by
  unfold ofPath
  split
  · rename_i slash
    rw [firstDelimiter?_map_exchange, slash]
    decide
  · assumption

theorem ofPath_ofPath (path : Text) : ofPath (ofPath path) = ofPath path :=
  if_neg (firstDelimiter?_ofPath path)

theorem toPath_ofPath (slashed : firstDelimiter? path ≠ some (.char '.')) :
    toPath (ofPath path) = path := by
  unfold ofPath
  split
  · rename_i slash
    have dot : firstDelimiter? (path.map exchange) = some (.char '.') := by
      rw [firstDelimiter?_map_exchange, slash]
      rfl
    have twice : exchange ∘ exchange = id := funext exchange_exchange
    rw [toPath, if_pos dot, List.map_map, twice, List.map_id]
  · exact if_neg slashed

end Key

namespace Access

variable {root : Path} {first : Text} {rest : List Text}

theorem hasNul_resolve {key : Text} (proper : root.hasNul = false) (plain : .char '\x00' ∉ key) :
    (resolve root key).hasNul = false :=
  Path.hasNul_join proper fun nul => plain ((Key.mem_toPath rfl).mp nul)

theorem hasNul_resolve_iff {key : Text} (proper : root.hasNul = false) :
    (resolve root key).hasNul = true ↔ .char '\x00' ∈ key := by
  constructor
  · intro nul
    refine Decidable.byContradiction fun plain => ?_
    exact Bool.false_ne_true ((hasNul_resolve proper plain).symm.trans nul)
  · exact fun nul => Path.hasNul_join_of_mem root ((Key.mem_toPath rfl).mpr nul)

theorem exists_render (first : Text) (rest : List Text) :
    ∃ behind, Path.render ⟨.relative, first :: rest⟩ = first ++ behind ∧
      (behind = [] ∨ behind.head? = some (.char '/')) := by
  rw [Path.render_relative (List.cons_ne_nil first rest)]
  by_cases last : rest = []
  · exact ⟨[], by simp [last], .inl rfl⟩
  · exact ⟨'/' :: [.char '/'].intercalate rest,
      by simp [List.intercalate_cons_of_ne_nil last], .inr rfl⟩

theorem firstDelimiter?_render (slashes : .char '/' ∉ first) :
    Key.firstDelimiter? (Path.render ⟨.relative, first :: rest⟩) = some (.char '.') ↔
      .char '.' ∈ first := by
  obtain ⟨behind, split, next⟩ := exists_render first rest
  rw [split, Key.firstDelimiter?_append]
  by_cases dot : .char '.' ∈ first
  · simp [dot, Key.firstDelimiter?_eq_dot dot slashes]
  · have later : Key.firstDelimiter? behind ≠ some (.char '.') := by
      rcases next with rfl | slash
      · simp [Key.firstDelimiter?]
      · cases behind with
        | nil => simp at slash
        | cons c behind =>
          simp only [List.head?_cons, Option.some.injEq] at slash
          simp [Key.firstDelimiter?, Key.isDelimiter, slash]
    simp [dot, Key.firstDelimiter?_eq_none dot slashes, later]

theorem toPath_render (slashes : .char '/' ∉ first) :
    Key.toPath (Path.render ⟨.relative, first :: rest⟩) =
      if .char '.' ∈ first then (Path.render ⟨.relative, first :: rest⟩).map Key.exchange
      else Path.render ⟨.relative, first :: rest⟩ := by
  simp only [Key.toPath, firstDelimiter?_render slashes]

theorem dropWhile_slash {text : Text} (head : text.head? ≠ some (.char '/')) :
    text.dropWhile (· = .char '/') = text := by
  apply Text.dropWhile_of_head
  intro c first
  have different : c ≠ '/' := fun same => head (same ▸ first)
  exact decide_eq_false different

theorem head?_append_ne_slash {before : Text} (behind : Text) (filled : before ≠ [])
    (slashes : .char '/' ∉ before) : (before ++ behind).head? ≠ some (.char '/') := by
  cases before with
  | nil => exact absurd rfl filled
  | cons c before =>
    intro slash
    simp only [List.cons_append, List.head?_cons, Option.some.injEq] at slash
    exact slashes (slash ▸ List.mem_cons_self)

theorem resolve_render_of_dotless (components : ∀ part ∈ first :: rest, Path.IsComponent part)
    (dotless : .char '.' ∉ first) :
    resolve root (Path.render ⟨.relative, first :: rest⟩) = root.append (first :: rest) := by
  have component : Path.IsComponent first := components first List.mem_cons_self
  have head : (Path.render ⟨.relative, first :: rest⟩).head? ≠ some (.char '/') := by
    obtain ⟨behind, split, -⟩ := exists_render first rest
    rw [split]
    exact head?_append_ne_slash behind (Path.isComponent_ne_nil component) component.2
  rw [resolve, toPath_render component.2, if_neg dotless, Path.join, dropWhile_slash head,
    Path.parts_ofText_render (List.cons_ne_nil first rest) components]

theorem resolve_render_of_dotted (components : ∀ part ∈ first :: rest, Path.IsComponent part)
    (dotted : .char '.' ∈ first) :
    resolve root (Path.render ⟨.relative, first :: rest⟩) ≠ root.append (first :: rest) := by
  have component : Path.IsComponent first := components first List.mem_cons_self
  obtain ⟨behind, split, -⟩ := exists_render first rest
  obtain ⟨before, after, found, dotless⟩ := List.eq_append_cons_of_mem dotted
  have slashless : .char '/' ∉ before := fun member =>
    component.2 (found ▸ List.mem_append_left _ member)
  rw [resolve, toPath_render component.2, if_pos dotted, Path.join, Ne, Path.append_inj]
  have exchanged : (Path.render ⟨.relative, first :: rest⟩).map Key.exchange =
      before ++ .char '/' :: (after ++ behind).map Key.exchange := by
    have dot : Key.exchange '.' = '/' := rfl
    rw [split, found]
    simp only [List.map_append, List.map_cons, List.append_assoc, List.cons_append, dot,
      Key.map_exchange_eq_self dotless slashless]
  intro same
  by_cases leading : before = []
  · have shorter := Path.length_parts_ofText
      (((Path.render ⟨.relative, first :: rest⟩).map Key.exchange).dropWhile (· = .char '/'))
    have dropped := (List.dropWhile_sublist (· = .char '/')
      (l := (after ++ behind).map Key.exchange)).length_le
    have length : ((Path.render ⟨.relative, first :: rest⟩).map Key.exchange).length =
        ([.char '/'].intercalate (first :: rest)).length := by
      rw [List.length_map, Path.render_relative (List.cons_ne_nil first rest)]
    rw [same] at shorter
    rw [exchanged, leading] at shorter length
    simp only [List.nil_append, List.dropWhile_cons, decide_true, if_true] at shorter
    simp only [List.nil_append, List.length_cons] at length
    omega
  · have head := head?_append_ne_slash ('/' :: (after ++ behind).map Key.exchange) leading slashless
    have part : Path.isPart before = true := by
      have notDot : before ≠ Path.dot := fun same => dotless (by simp [same, Path.dot])
      simp [Path.isPart, leading, notDot]
    rw [exchanged, dropWhile_slash head, Path.ofText, Path.pieces,
      List.splitOn_append_cons_self_of_not_mem slashless, List.filter_cons, if_pos part] at same
    have ended : before = first := (List.cons.inj same).1
    simp [found] at ended

/-- The exact condition under which a slashed key names the file it spells. -/
theorem resolve_render_iff (components : ∀ part ∈ first :: rest, Path.IsComponent part) :
    resolve root (Path.render ⟨.relative, first :: rest⟩) = root.append (first :: rest) ↔
      .char '.' ∉ first :=
  ⟨fun same dotted => resolve_render_of_dotted components dotted same,
    resolve_render_of_dotless components⟩

end Access

end Tunables
