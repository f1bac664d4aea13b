import Tunables.Proofs.Walk

namespace Tunables

theorem Anchor.ofText_of_head {text : Text} (head : text.head? ≠ some (.char '/')) :
    ofText text = .relative := by
  unfold ofText
  split <;> simp_all

namespace Path

theorem head?_dropWhile_slash (text : Text) :
    (text.dropWhile (· = .char '/')).head? ≠ some (.char '/') := by
  intro first
  exact absurd (Text.head?_dropWhile first) (by decide)

theorem isRelative_dropWhile (text : Text) :
    (ofText (text.dropWhile (· = .char '/'))).isRelative = true :=
  decide_eq_true (Anchor.ofText_of_head (head?_dropWhile_slash text))

theorem pieces_slash (text : Text) : pieces ('/' :: text) = [] :: pieces text :=
  List.splitOn_append_cons_self_of_not_mem List.not_mem_nil text

theorem filter_pieces_dropWhile (text : Text) :
    (pieces (text.dropWhile (· = .char '/'))).filter isPart = (pieces text).filter isPart := by
  induction text with
  | nil => rfl
  | cons c rest ih =>
    by_cases slash : c = '/'
    · rw [slash, List.dropWhile_cons_of_pos (by decide), ih, pieces_slash,
        List.filter_cons_of_neg (by decide)]
    · rw [List.dropWhile_cons_of_neg (by simpa using slash)]

theorem join_eq_append (path : Path) (text : Text) :
    path.join text = path.append ((pieces text).filter isPart) :=
  congrArg path.append (filter_pieces_dropWhile text)

theorem join_intercalate (path : Path) {parts : List Text} (filled : parts ≠ [])
    (components : ∀ part ∈ parts, IsComponent part) :
    path.join ([.char '/'].intercalate parts) = path.append parts := by
  rw [join_eq_append, filter_pieces_intercalate filled components]

/-- The path that parts lead to if `..` takes away the part before it. -/
def collapse (base : Path) (parts : List Text) : Path :=
  parts.foldl (fun path part => if part = dotDot then path.parent else path.child part) base

theorem collapse_of_plain {parts : List Text} (plain : ∀ part ∈ parts, part ≠ dotDot)
    (base : Path) : collapse base parts = base.append parts := by
  induction parts generalizing base with
  | nil => simp [collapse, append]
  | cons part rest ih =>
    rw [List.forall_mem_cons] at plain
    have below := ih plain.2 (base.child part)
    rw [child_append] at below
    rw [← below, collapse, List.foldl_cons, if_neg plain.1, collapse]

end Path

theorem Key.dot_not_mem_toPath {key : Text} (slashless : .char '/' ∉ key) :
    .char '.' ∉ toPath key := by
  by_cases dot : .char '.' ∈ key
  · rw [toPath, if_pos (firstDelimiter?_eq_dot dot slashless)]
    intro member
    obtain ⟨c, inside, exchanged⟩ := List.mem_map.mp member
    have slash : c = '/' := by
      rw [← exchange_exchange c, exchanged]
      rfl
    exact slashless (slash ▸ inside)
  · rw [toPath, firstDelimiter?_eq_none dot slashless]
    exact dot

namespace Access

def added (key : Text) : List Text := (Path.pieces (Key.toPath key)).filter Path.isPart

theorem resolve_eq_append (root : Path) (key : Text) :
    resolve root key = root.append (added key) :=
  Path.join_eq_append root (Key.toPath key)

theorem dot_not_mem_added {key part : Text} (slashless : .char '/' ∉ key)
    (member : part ∈ added key) : .char '.' ∉ part := by
  intro dot
  have piece : part ∈ Path.pieces (Key.toPath key) := (List.mem_filter.mp member).1
  have whole : .char '.' ∈ Key.toPath key :=
    (Path.mem_iff_exists_piece (by decide)).mpr ⟨part, piece, dot⟩
  exact Key.dot_not_mem_toPath slashless whole

/-- A key adds parts to the root and changes nothing else of it: without its leading slashes it is
not absolute, whatever its spelling. Without a slash in the key no part has a dot, so that none
leads up and the path stays at the root or below it. -/
theorem resolve_below_root (root : Path) (key : Text) :
    (resolve root key).anchor = root.anchor ∧
    (resolve root key).parts = root.parts ++ added key ∧
    (Path.ofText ((Key.toPath key).dropWhile (· = .char '/'))).isRelative = true ∧
    (.char '/' ∉ key →
      (∀ part ∈ added key, part ≠ Path.dotDot ∧ .char '.' ∉ part) ∧
      Path.below? root (Path.collapse root (added key)) = some (added key)) := by
  rw [resolve_eq_append]
  refine ⟨rfl, rfl, Path.isRelative_dropWhile (Key.toPath key), ?_⟩
  intro slashless
  have dotless : ∀ part ∈ added key, part ≠ Path.dotDot ∧ .char '.' ∉ part := by
    intro part member
    have absent := dot_not_mem_added slashless member
    constructor
    · rintro rfl
      exact absent List.mem_cons_self
    · exact absent
  have plain : ∀ part ∈ added key, part ≠ Path.dotDot :=
    fun part member => (dotless part member).1
  rw [Path.collapse_of_plain plain, Path.below?_append]
  exact ⟨dotless, rfl⟩

/-- With a slash in the key a part can lead up, and out of the root. -/
example : added ".etc.//.//.passwd".text =
    ["etc".text, "..".text, "..".text, "passwd".text] := by decide

theorem resolve_slash (root : Path) (text : Text) :
    resolve root ('/' :: text) = root.join text := by
  have first : Key.firstDelimiter? ('/' :: text) = some (.char '/') := rfl
  calc resolve root ('/' :: text)
      = root.join ('/' :: text) := by rw [resolve, Key.toPath, first, if_neg (by decide)]
    _ = root.join text := by
      rw [Path.join_eq_append, Path.join_eq_append, Path.pieces_slash,
        List.filter_cons_of_neg (by decide)]

/-- Components with slashes between them lead to the path that they spell exactly if the first one
holds no dot. A slash in front of them leads there in any case. -/
theorem resolve_spelled_iff (root : Path) {first : Text} {rest : List Text}
    (components : ∀ part ∈ first :: rest, Path.IsComponent part) :
    root.join ([.char '/'].intercalate (first :: rest)) = root.append (first :: rest) ∧
    (resolve root ([.char '/'].intercalate (first :: rest)) =
      root.join ([.char '/'].intercalate (first :: rest)) ↔ .char '.' ∉ first) ∧
    resolve root ('/' :: [.char '/'].intercalate (first :: rest)) =
      root.join ([.char '/'].intercalate (first :: rest)) := by
  have filled : first :: rest ≠ [] := List.cons_ne_nil first rest
  have joined := Path.join_intercalate root filled components
  refine ⟨joined, ?_, resolve_slash root _⟩
  rw [joined, ← Path.render_relative filled]
  constructor
  · intro same dotted
    exact resolve_render_of_dotted components dotted same
  · intro dotless
    exact resolve_render_of_dotless components dotless

open Sample

/-- An interface is found by its slashed path in a directory, and right below the root only with a
slash in front. -/
theorem resolve_spelled_interface :
    (∀ part ∈ [net.text, interface.text], Path.IsComponent part) ∧
    resolve ⟨.root, [sys.text]⟩ "net/eth0.1".text =
      ⟨.root, [sys.text, net.text, interface.text]⟩ ∧
    (∀ part ∈ [interface.text, net.text], Path.IsComponent part) ∧
    resolve ⟨.root, [sys.text]⟩ "eth0.1/net".text ≠
      ⟨.root, [sys.text, interface.text, net.text]⟩ ∧
    resolve ⟨.root, [sys.text]⟩ "/eth0.1/net".text =
      ⟨.root, [sys.text, interface.text, net.text]⟩ := by
  have inside := Name.forall_mem Name.isComponent net [interface]
  have outside := Name.forall_mem Name.isComponent interface [net]
  obtain ⟨led, itself, -⟩ := resolve_spelled_iff ⟨.root, [sys.text]⟩ inside
  obtain ⟨led', itself', slashed⟩ := resolve_spelled_iff ⟨.root, [sys.text]⟩ outside
  refine ⟨inside, (itself.mpr (by decide)).trans led, outside, ?_, slashed.trans led'⟩
  intro same
  exact absurd (itself'.mp (same.trans led'.symm)) (by decide)

end Access

end Tunables
