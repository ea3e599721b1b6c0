import Mathlib.Data.List.Infix
import Mathlib.Data.List.TakeWhile
import NovelScript.Proofs.Project.Outputs

/-!
# Containment — which outputs stay below the output directory

A path lies strictly below a root if it goes on from the components of the root, by one component
at least, and if what it goes on with never climbs above where it begins: read from left to right,
there are never more steps up than names before them.

Outputs do not always lie there, because a source is put behind the output directory as it stands.
An absolute source takes the place of the directory. A source without a name (an empty one, or one
of dots and slashes) leads to the directory itself, and in JSON form to the file beside it that has
the directory's name with the new extension. And a source may climb, as the new extension may make
it: the name `..a` loses its extension before it is given another, and what is left is no name but a
step up.

A source with a name is a lead, which only says where it begins, and a path behind it that begins
plainly (`Path.exists_led`). The lead goes over to what the source is put behind, and what is known
of plain paths there (`Path.components_withExtension_join`) then holds of every source.

## What is proved

`strictlyBelow_outputPath_iff`: the outputs that lie strictly below the root, for all roots, sources
and formats. `outputs_escape`: four sources whose outputs do not, the last in JSON form.
-/

set_option autoImplicit false

namespace NovelScript

namespace Path

/-! ## Below a root -/

/-- Whether components, followed from left to right, never lead above where they begin. -/
def NeverClimbs (components : List Component) : Prop :=
  ∀ front, front <+: components → front.count .up ≤ front.countP Component.isName

/-- A path goes on from a root and never leads above it. -/
def StrictlyBelow (root p : Path) : Prop :=
  ∃ further, p.components = root.components ++ further ∧ further ≠ [] ∧ NeverClimbs further

instance (components : List Component) : Decidable (NeverClimbs components) :=
  decidable_of_iff (∀ front ∈ components.inits, front.count .up ≤ front.countP Component.isName)
    (by simp only [List.mem_inits]; exact Iff.rfl)

variable {root p tail : Path} {further : List Component}

/-- How a path begins is neither a name nor a step up. -/
theorem neverClimbs_start_append (start : Start) :
    NeverClimbs (start.component?.toList ++ further) ↔ NeverClimbs further := by
  cases start with
  | plain => exact Iff.rfl
  | root | current =>
    constructor
    · intro stays front begins
      simpa [Component.isName] using
        stays (_ :: front) (List.cons_prefix_cons.mpr ⟨rfl, begins⟩)
    · intro stays front begins
      rcases List.prefix_cons_iff.mp begins with rfl | ⟨front, rfl, begins'⟩
      · simp
      · simpa [Component.isName] using stays front begins'

/-- What a path goes on with is one thing only. -/
theorem strictlyBelow_iff_of_append (h : p.components = root.components ++ further) :
    root.StrictlyBelow p ↔ further ≠ [] ∧ NeverClimbs further := by
  constructor
  · rintro ⟨other, same, goesOn, stays⟩
    obtain rfl := List.append_cancel_left (h.symm.trans same)
    exact ⟨goesOn, stays⟩
  · rintro ⟨goesOn, stays⟩
    exact ⟨further, h, goesOn, stays⟩

instance (root p : Path) : Decidable (root.StrictlyBelow p) :=
  if begins : root.components <+: p.components then
    decidable_of_iff _ (strictlyBelow_iff_of_append (List.prefix_iff_eq_append.mp begins).symm).symm
  else
    isFalse fun ⟨further, same, _⟩ => begins ⟨further, same.symm⟩

/-- A path of no more components than the root does not go on from it. -/
theorem not_strictlyBelow_of_length_le (h : p.components.length ≤ root.components.length) :
    ¬ root.StrictlyBelow p := by
  rintro ⟨further, same, goesOn, -⟩
  rw [same, List.length_append] at h
  have := List.length_pos_iff.mpr goesOn
  omega

/-! ## Paths behind a root -/

/-- The components of a path that are steps up or names. -/
def steps (p : Path) : List Component := (p.pieces.filter counts).map ofPiece

/-- A path has a step exactly if it has a name. -/
theorem steps_ne_nil_iff : p.steps ≠ [] ↔ HasName p.pieces := by
  simp [steps, HasName]

/-- Cut at every slash, a whole text has the pieces that count of what is behind its beginning. -/
theorem filter_counts_text (p : Path) :
    ((splitAtEvery '/' p.text.toList).map String.ofList).filter counts =
      p.pieces.filter counts := by
  rw [pieces]
  generalize p.text.toList = text
  fun_cases splitStart text with
  | case4 => rfl
  | _ => simp [splitAtEvery, counts]

/-- A relative path goes on from a root by its steps. -/
theorem components_join_of_relative (relative : p.isAbsolute = false) (nonempty : root.text ≠ "") :
    (root.join p).components = root.components ++ p.steps := by
  obtain ⟨front, free, shape, counted⟩ := exists_terminated root
  have whole : (root.join p).text.toList = root.text.toList ++
      ((if root.text = "" ∨ root.text.toList.getLast? = some '/' then [] else ['/']) ++
        p.text.toList) := by
    rw [join, if_neg (by simp [relative])]
    split <;> simp
  have split : splitStart (root.join p).text.toList =
      (root.start, terminated '/' front ++ p.text.toList) := by
    rw [whole, splitStart_append (fun empty => ?_) fun dot => ?_, shape, List.append_assoc]
    · rfl
    · exact absurd (by simpa using empty) nonempty
    · have dot : root.text = "." := by simpa using congrArg String.ofList dot
      rw [dot, if_neg (by decide)]
      exact ⟨_, rfl⟩
  rw [components, components, steps, start, pieces, split, splitAtEvery_terminated free,
    List.map_append, List.filter_append, counted, filter_counts_text, List.map_append,
    List.append_assoc]

/-- A relative path behind one that needs no slash. -/
theorem join_of_closed (closed : root.text = "" ∨ root.text.toList.getLast? = some '/')
    (relative : p.isAbsolute = false) : root.join p = ⟨root.text ++ p.text⟩ := by
  rw [join, if_neg (by simp [relative]), if_pos closed]

/-- A relative path behind one that needs a slash. -/
theorem join_of_open (opened : ¬ (root.text = "" ∨ root.text.toList.getLast? = some '/'))
    (relative : p.isAbsolute = false) : root.join p = ⟨root.text ++ "/" ++ p.text⟩ := by
  rw [join, if_neg (by simp [relative]), if_neg opened]

/-! ## Leads -/

/-- A path is a lead, which has no step, and a path behind it that begins plainly and has one. -/
structure Led (p lead tail : Path) : Prop where
  joined : p = lead.join tail
  start : lead.start = p.start
  steps : lead.steps = []
  closed : lead.text = "" ∨ lead.text.toList.getLast? = some '/'
  plain : tail.start = .plain
  named : HasName tail.pieces

/-- A text in which a piece counts is terminated pieces that do not, and a text that begins plainly
and has a name. -/
theorem exists_plain_end {text : List Char}
    (named : HasName ((splitAtEvery '/' text).map String.ofList)) :
    ∃ noise tail, text = terminated '/' noise ++ tail ∧ (∀ piece ∈ noise, '/' ∉ piece) ∧
      (noise.map String.ofList).filter counts = [] ∧ (Path.mk (String.ofList tail)).start = .plain ∧
        HasName (Path.mk (String.ofList tail)).pieces := by
  obtain ⟨first, found⟩ := Option.isSome_iff_exists.mp (List.find?_isSome.mpr named)
  obtain ⟨counted, noise, more, whole, silent⟩ := List.find?_eq_some_iff_append.mp found
  obtain ⟨noise, rest, split, rfl, others⟩ := List.map_eq_append_iff.mp whole
  obtain ⟨first, more, rfl, rfl, -⟩ := List.map_eq_cons_iff.mp others
  have free : ∀ piece ∈ noise, '/' ∉ piece := fun piece mem =>
    not_mem_of_mem_splitAtEvery (split ▸ List.mem_append_left _ mem)
  have shape : text = terminated '/' noise ++ ['/'].intercalate (first :: more) :=
    eq_of_splitAtEvery (List.cons_ne_nil _ _) split
  have rest : splitAtEvery '/' (['/'].intercalate (first :: more)) = first :: more := by
    rw [shape, splitAtEvery_terminated free] at split
    exact List.append_cancel_left split
  have plain : (Path.mk (String.ofList (['/'].intercalate (first :: more)))).start = .plain := by
    rw [start, String.toList_ofList]
    exact congrArg Prod.fst (splitStart_of_counts rest counted)
  refine ⟨noise, _, shape, free, ?_, plain, String.ofList first, ?_, counted⟩
  · rw [List.filter_eq_nil_iff]
    intro piece mem
    simpa using silent piece mem
  · rw [pieces_of_plain plain, String.toList_ofList, rest]
    exact List.mem_cons_self

/-- Behind a slash, the pieces in front of a plain end are a lead. -/
theorem exists_led_of_slash (head : List Char) {rest : List Char}
    (whole : p.text.toList = head ++ '/' :: rest)
    (begins : ∀ behind, (splitStart (head ++ '/' :: behind)).1 = p.start)
    (free : '/' ∉ head) (silent : ¬ counts (String.ofList head))
    (named : HasName p.pieces) : ∃ lead tail, p.Led lead tail := by
  have named : HasName ((splitAtEvery '/' rest).map String.ofList) := by
    rw [← steps_ne_nil_iff, steps, ← filter_counts_text, whole,
      splitAtEvery_append_separator, splitAtEvery_of_free free] at named
    simpa [silent, HasName] using named
  obtain ⟨noise, tail, shape, slashes, uncounted, plain, named⟩ := exists_plain_end named
  let lead : Path := ⟨String.ofList (head ++ '/' :: terminated '/' noise)⟩
  have last : lead.text.toList.getLast? = some '/' := by
    rw [String.toList_ofList, show head ++ '/' :: terminated '/' noise =
      terminated '/' (head :: noise) by simp [terminated],
      terminated_eq '/' (List.cons_ne_nil _ _), List.getLast?_concat]
  refine ⟨lead, ⟨String.ofList tail⟩, ⟨?_, ?_, ?_, .inr last, plain, named⟩⟩
  · rw [join_of_closed (.inr last) (isAbsolute_of_plain plain), Path.mk.injEq,
      ← String.toList_inj, whole, shape]
    simp [lead]
  · rw [start, String.toList_ofList, begins]
  · rw [steps, ← filter_counts_text, String.toList_ofList, splitAtEvery_append_separator,
      splitAtEvery_of_free free]
    have none := splitAtEvery_terminated slashes []
    rw [List.append_nil] at none
    rw [none, List.map_append, List.map_append, List.filter_append, List.filter_append, uncounted,
      List.map_singleton, List.filter_cons_of_neg silent]
    rfl

/-- Every path with a name has a lead. -/
theorem exists_led (named : HasName p.pieces) : ∃ lead tail, p.Led lead tail := by
  have begins : p.start = (splitStart p.text.toList).1 := rfl
  generalize whole : p.text.toList = text at begins
  -- Behind a first slash the lead goes on to the first name; a plain beginning needs no lead.
  fun_cases splitStart text with
  | case1 rest =>
    exact exists_led_of_slash [] whole (fun _ => begins.symm) List.not_mem_nil
      (by decide) named
  | case2 =>
    rw [← steps_ne_nil_iff, steps, ← filter_counts_text, whole] at named
    exact absurd rfl named
  | case3 rest =>
    exact exists_led_of_slash ['.'] whole (fun _ => begins.symm) (by decide)
      (by decide) named
  | case4 text root dot current =>
    have plain : p.start = .plain := by rw [begins, splitStart_plain root dot current]
    refine ⟨⟨""⟩, p, ⟨?_, plain.symm, rfl, .inl rfl, plain, named⟩⟩
    rw [join_of_closed (.inl rfl) (isAbsolute_of_plain plain), String.empty_append]

variable {lead : Path}

/-- A lead is absolute if the path is. -/
theorem Led.isAbsolute (led : p.Led lead tail) : lead.isAbsolute = p.isAbsolute := by
  rw [Path.isAbsolute, Path.isAbsolute, led.start]

/-- What begins plainly puts its components behind how the path begins. -/
theorem Led.components_withExtension (led : p.Led lead tail) (extension : String) :
    (p.withExtension extension).components =
      p.start.component?.toList ++ (tail.withExtension extension).components := by
  have alone : lead.components = p.start.component?.toList := by
    show lead.start.component?.toList ++ lead.steps = _
    rw [led.start, led.steps, List.append_nil]
  rw [led.joined, components_withExtension_join lead led.plain led.named, alone, ← led.joined]

/-- Put behind a root, a relative path is what begins plainly behind the root and the lead. -/
theorem Led.join_join (led : p.Led lead tail) (relative : p.isAbsolute = false)
    (nonempty : root.text ≠ "") : root.join p = (root.join lead).join tail := by
  have relative' : lead.isAbsolute = false := led.isAbsolute.trans relative
  have plain : tail.isAbsolute = false := isAbsolute_of_plain led.plain
  have text : p.text = lead.text ++ tail.text := by
    rw [led.joined, join_of_closed led.closed plain]
  -- An empty lead or one that ends in a slash never asks for another slash behind it.
  by_cases closed : root.text = "" ∨ root.text.toList.getLast? = some '/'
  · have still : (root.text ++ lead.text).toList.getLast? = some '/' := by
      rcases led.closed with empty | last
      · simpa [empty] using closed.resolve_left nonempty
      · rw [String.toList_append, List.getLast?_append, last]
        rfl
    rw [join_of_closed closed relative, join_of_closed closed relative',
      join_of_closed (.inr still) plain, text, String.append_assoc]
  · have still : (root.text ++ "/" ++ lead.text).toList.getLast? = some '/' := by
      rcases led.closed with empty | last
      · simp [empty]
      · rw [String.toList_append, List.getLast?_append, last]
        rfl
    rw [join_of_open closed relative, join_of_open closed relative',
      join_of_closed (.inr still) plain, text]
    exact congrArg Path.mk (String.append_assoc ..).symm

/-- The components of a relative path with a name, behind a root and with another extension: the
replacement is that of the path alone. -/
theorem Led.components_withExtension_join (led : p.Led lead tail) (relative : p.isAbsolute = false)
    (nonempty : root.text ≠ "") (extension : String) :
    ((root.join p).withExtension extension).components =
      root.components ++ (tail.withExtension extension).components := by
  have relative' : lead.isAbsolute = false := led.isAbsolute.trans relative
  rw [led.join_join relative nonempty, Path.components_withExtension_join _ led.plain led.named,
    components_join_of_relative relative' nonempty, led.steps, List.append_nil]

/-! ## Paths without a name -/

/-- A piece that counts still counts with more characters behind it. -/
theorem counts_append {piece : List Char} (counted : counts (String.ofList piece))
    (behind : List Char) : counts (String.ofList (piece ++ behind)) := by
  cases piece with
  | nil => exact absurd counted (by decide)
  | cons c rest =>
    simp only [counts, Bool.and_eq_true, bne_iff_ne, ne_eq, ← String.toList_inj,
      String.toList_ofList] at counted ⊢
    refine ⟨List.cons_ne_nil _ _, fun dot => counted.2 ?_⟩
    obtain ⟨rfl, none⟩ := List.cons.inj dot
    rw [(List.append_eq_nil_iff.mp none).1]
    rfl

/-- A text has no more pieces that count than one that goes on from it. -/
theorem length_filter_counts_le {short long : List Char} (h : short <+: long) :
    (((splitAtEvery '/' short).map String.ofList).filter counts).length ≤
      (((splitAtEvery '/' long).map String.ofList).filter counts).length := by
  obtain ⟨behind, rfl⟩ := h
  obtain ⟨init, last, split⟩ : ∃ init last, splitAtEvery '/' short = init ++ [last] :=
    ⟨_, _, (List.dropLast_concat_getLast (splitAtEvery_ne_nil '/' short)).symm⟩
  obtain ⟨first, others, split'⟩ :=
    List.exists_cons_of_ne_nil (splitAtEvery_ne_nil '/' behind)
  rw [split, splitAtEvery_append_of_split split split', List.map_append, List.map_append,
    List.filter_append, List.filter_append, List.length_append, List.length_append,
    List.map_singleton, List.map_cons]
  -- Only the last piece of the shorter text changes, and it goes on counting if it did.
  by_cases counted : counts (String.ofList last)
  · rw [List.filter_cons_of_pos counted, List.filter_cons_of_pos (counts_append counted first)]
    simp
  · rw [List.filter_cons_of_neg counted]
    simp

/-- Taking bytes off the end of a text leaves a front of it. -/
theorem dropBytes_suffix (bytes : Nat) (text : List Char) : dropBytes bytes text <:+ text := by
  fun_induction dropBytes bytes text with
  | case1 => exact List.suffix_refl []
  | case2 bytes c rest fits ih => exact ih.trans (List.suffix_cons c rest)
  | case3 => exact List.suffix_refl _

/-- Taking the extension off a path leaves a front of its text. -/
theorem prefix_text_dropExtension (p : Path) : p.dropExtension.text.toList <+: p.text.toList := by
  rw [dropExtension]
  split
  next extension _ =>
    rw [String.toList_ofList, ← List.reverse_suffix, List.reverse_reverse]
    exact dropBytes_suffix _ _
  next => exact List.prefix_refl _

/-- A path that begins plainly has its steps for components. -/
theorem components_of_plain (plain : tail.start = .plain) : tail.components = tail.steps := by
  rw [components, plain]
  rfl

/-- So it has as many components as its text has pieces that count. -/
theorem length_components_of_plain (plain : tail.start = .plain) :
    tail.components.length =
      (((splitAtEvery '/' tail.text.toList).map String.ofList).filter counts).length := by
  rw [components_of_plain plain, steps, List.length_map, filter_counts_text]

/-- An extension behind the stem of a path leaves the path as it is, or goes to its last name. -/
theorem Cut.appendExtension_cases {init noise : List (List Char)} {last : List Char}
    (cut : tail.Cut init last noise) (extension : String) :
    tail.appendExtension extension = tail ∨
      (tail.appendExtension extension).text.toList = terminated '/' init ++
        ((splitName (String.ofList last)).1.toList ++ '.' :: extension.toList) := by
  have back : trimEnd tail.pieces = init.map String.ofList ++ [String.ofList last] :=
    cut.trimEnd_pieces []
  rw [appendExtension, cut.fileName?, back, List.dropLast_concat, cut.plain]
  by_cases up : String.ofList last = ".."
  · rw [if_pos up]
    exact .inl rfl
  · rw [if_neg up]
    exact .inr (by simp [ofPieces, Start.text, intercalate_append_terminated])

/-- Another extension gives a path that begins plainly no further component. -/
theorem length_components_withExtension_le (plain : tail.start = .plain)
    (named : HasName tail.pieces) {extension : String} (free : '/' ∉ extension.toList) :
    (tail.withExtension extension).components.length ≤ tail.components.length := by
  obtain ⟨init, last, noise, cut⟩ := exists_cut plain named
  obtain ⟨-, plain', named'⟩ := cut.dropExtension_join tail
  obtain ⟨init', last', noise', cut'⟩ := exists_cut plain' named'
  have dropped : tail.dropExtension.components.length ≤ tail.components.length := by
    rw [length_components_of_plain plain', length_components_of_plain plain]
    exact length_filter_counts_le (prefix_text_dropExtension tail)
  refine Nat.le_trans ?_ dropped
  rw [withExtension]
  rcases cut'.appendExtension_cases extension with same | text
  · rw [same]
  · have ends := cut'.endsIn
    have stem : '/' ∉ (splitName (String.ofList last')).1.toList ++ '.' :: extension.toList := by
      simp [ends.stemFree, free]
    rw [length_components_of_plain (cut'.appendExtension_join tail extension).2.1,
      length_components_of_plain plain', text, splitAtEvery_terminated ends.free,
      splitAtEvery_of_free stem, cut'.split, List.map_append, List.map_append, List.filter_append,
      List.filter_append, List.map_cons, List.map_cons, List.filter_cons_of_pos cut'.counted,
      List.length_append, List.length_append, List.length_cons]
    exact Nat.add_le_add_left ((List.length_filter_le _ _).trans (Nat.le_add_left 1 _)) _

/-- A path without a name keeps no extension and is given none. -/
theorem withExtension_of_nameless (nameless : ¬ HasName p.pieces) (extension : String) :
    p.withExtension extension = p := by
  have trimmed : trimEnd p.pieces = [] := by
    rw [trimEnd, List.reverse_eq_nil_iff, List.dropWhile_eq_nil_iff]
    intro piece mem
    rw [Bool.not_eq_true', ← Bool.not_eq_true]
    exact fun counted => nameless ⟨piece, List.mem_reverse.mp mem, counted⟩
  have unnamed : p.fileName? = none := by rw [fileName?, trimmed]; rfl
  rw [withExtension, dropExtension, unnamed, appendExtension, Option.bind_none, unnamed]

/-- Another extension gives no path a further component. -/
theorem length_withExtension_le (p : Path) {extension : String} (free : '/' ∉ extension.toList) :
    (p.withExtension extension).components.length ≤ p.components.length := by
  by_cases named : HasName p.pieces
  · obtain ⟨lead, tail, led⟩ := exists_led named
    have alone : p.components = lead.components ++ tail.components := by
      rw [led.joined, components_join lead led.plain]
    rw [alone, led.joined, components_withExtension_join lead led.plain led.named,
      List.length_append, List.length_append]
    exact Nat.add_le_add_left (length_components_withExtension_le led.plain led.named free) _
  · rw [withExtension_of_nameless named]

end Path

/-! ## Outputs -/

open NovelScript.Path

namespace Outcome

variable {o : Outcome} {root : Path} {format : OutputFormat}

/-- Behind nothing, and if it is absolute, a source is its own output. -/
theorem outputPath_eq_own (h : (Path.mk o.source).isAbsolute ∨ root.text = "") :
    o.outputPath root format = ownOutput format o.source := by
  have own : root.join ⟨o.source⟩ = ⟨o.source⟩ := by
    rw [join]
    split
    next => rfl
    next relative =>
      have empty := h.resolve_left relative
      rw [if_pos (.inl empty), empty, String.empty_append]
  cases format with
  | text => exact own
  | json => exact congrArg (·.withExtension "json") own

/-- The output of a relative source with a name goes on from the root as the source goes on from
where it begins. -/
theorem exists_further (format : OutputFormat)
    (relative : (Path.mk o.source).isAbsolute = false) (nonempty : root.text ≠ "")
    (named : HasName (Path.mk o.source).pieces) :
    ∃ further, further ≠ [] ∧
      (o.outputPath root format).components = root.components ++ further ∧
      relativeOutput format o.source =
        (Path.mk o.source).start.component?.toList ++ further := by
  cases format with
  | text =>
    exact ⟨_, steps_ne_nil_iff.mpr named, components_join_of_relative relative nonempty, rfl⟩
  | json =>
    obtain ⟨lead, tail, led⟩ := exists_led named
    refine ⟨_, ?_, led.components_withExtension_join relative nonempty "json",
      led.components_withExtension "json"⟩
    obtain ⟨plain, named⟩ := plain_withExtension led.plain led.named "json"
    rw [components_of_plain plain]
    exact steps_ne_nil_iff.mpr named

/-- The output of a source without a name is no further from the root than the root itself. -/
theorem length_outputPath_le (relative : (Path.mk o.source).isAbsolute = false)
    (nonempty : root.text ≠ "") (nameless : ¬ HasName (Path.mk o.source).pieces) :
    (o.outputPath root format).components.length ≤ root.components.length := by
  have stays : (root.join ⟨o.source⟩).components = root.components := by
    rw [components_join_of_relative relative nonempty,
      not_not.mp (mt steps_ne_nil_iff.mp nameless), List.append_nil]
  cases format with
  | text => exact Nat.le_of_eq (congrArg List.length stays)
  | json => exact (length_withExtension_le _ (by decide)).trans (Nat.le_of_eq (congrArg _ stays))

/-- An output lies strictly below the root exactly if its source is relative, has a name, and with
the extension of the format never climbs above where it begins. An absolute source, and any source
behind an empty root, is its own output, and lies below the root only if it says so itself. -/
theorem strictlyBelow_outputPath_iff (o : Outcome) (root : Path) (format : OutputFormat) :
    root.StrictlyBelow (o.outputPath root format) ↔
      if (Path.mk o.source).isAbsolute ∨ root.text = "" then
        root.StrictlyBelow (ownOutput format o.source)
      else HasName (Path.mk o.source).pieces ∧ NeverClimbs (relativeOutput format o.source) := by
  split
  next own => rw [outputPath_eq_own own]
  next apart =>
    obtain ⟨relative, nonempty⟩ := not_or.mp apart
    have relative : (Path.mk o.source).isAbsolute = false := Bool.not_eq_true _ ▸ relative
    by_cases named : HasName (Path.mk o.source).pieces
    · obtain ⟨further, goesOn, components, own⟩ :=
        exists_further format relative nonempty named
      rw [strictlyBelow_iff_of_append components, own, neverClimbs_start_append]
      exact ⟨fun ⟨_, stays⟩ => ⟨named, stays⟩, fun ⟨_, stays⟩ => ⟨goesOn, stays⟩⟩
    · exact ⟨fun below => absurd below
        (not_strictlyBelow_of_length_le (length_outputPath_le relative nonempty named)),
        fun ⟨named', _⟩ => absurd named' named⟩

end Outcome

/-- Four sources of a project whose outputs do not lie strictly below the output directory: an
absolute one, one that climbs, an empty one, and in JSON form one whose new extension makes it
climb. -/
theorem outputs_escape :
    let project : Project := ⟨[], [⟨0, "/a.yst", [], []⟩, ⟨1, "../a.yst", [], []⟩, ⟨2, "", [], []⟩,
      ⟨3, "..a", [], []⟩]⟩
    let outcomes := project.reconstruct .shiftJis
    (outcomes.map fun o => (o.outputPath ⟨"out"⟩ .text).text) =
        ["/a.yst", "out/../a.yst", "out/", "out/..a"] ∧
      (outcomes.map fun o => (o.outputPath ⟨"out"⟩ .json).text) =
        ["/a.json", "out/../a.json", "out.json", "out/.."] ∧
      (outcomes.map fun o => decide ((Path.mk "out").StrictlyBelow (o.outputPath ⟨"out"⟩ .text))) =
        [false, false, false, true] ∧
      (outcomes.map fun o => decide ((Path.mk "out").StrictlyBelow (o.outputPath ⟨"out"⟩ .json))) =
        [false, false, false, false] := by
  refine ⟨by decide +kernel, by decide +kernel, by decide +kernel, by decide +kernel⟩

end NovelScript
