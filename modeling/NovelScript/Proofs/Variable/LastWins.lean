import Mathlib.Data.List.Dedup
import Mathlib.Data.List.Induction
import NovelScript.Project.Basic
import NovelScript.Proofs.Variable.Restated

/-!
# The last one wins — a table is its declarations, the last for each id

Variables are put into a table one after the other, and one that comes later takes the place of an
earlier one with its id. So what a table holds under an id is the variable that was declared last
under it (`lastOf`), and two lists of declarations make the same table exactly if they agree on that
for every id. A project does not look at its declarations but through the table, so declarations may
trade places as long as those of one id keep their order.

## What is proved

`get?_ofList`: what a table holds. `eq_of_get?_eq`: a table is what it holds. `ofList_eq_iff`: when
declarations make the same table. `last_wins`: the table of any declarations, and projects that
declare in another order.
-/

set_option autoImplicit false

namespace NovelScript

/-- The same variables in another order, in which those that share an id keep theirs. -/
structure Reordered (vars others : List Variable) : Prop where
  perm : vars.Perm others
  kept : ∀ id : UInt16, vars.filter (fun v => v.id == id) = others.filter fun v => v.id == id

/-- Neighbours with different ids may trade places. -/
theorem Reordered.swap {v w : Variable} (different : v.id ≠ w.id) (front back : List Variable) :
    Reordered (front ++ v :: w :: back) (front ++ w :: v :: back) where
  perm := .append_left front (.swap w v back)
  kept id := by
    rw [List.filter_append, List.filter_append]
    refine congrArg (front.filter _ ++ ·) ?_
    by_cases first : v.id = id
    · have second : ¬ w.id = id := fun same => different (first.trans same.symm)
      simp [first, second]
    · simp [List.filter_cons, first]

namespace VariableTable

/-- The variable that was declared last under an id. -/
def lastOf (id : UInt16) (vars : List Variable) : Option Variable :=
  (vars.filter fun v => v.id == id).getLast?

theorem lastOf_concat (id : UInt16) (vars : List Variable) (v : Variable) :
    lastOf id (vars ++ [v]) = if v.id = id then some v else lastOf id vars := by
  unfold lastOf
  rw [List.filter_append]
  split
  next own =>
    rw [List.filter_cons_of_pos (by simpa using own), List.filter_nil, List.getLast?_concat]
  next other =>
    rw [List.filter_cons_of_neg (by simpa using other), List.filter_nil, List.append_nil]

theorem exists_lastOf_iff {id : UInt16} {vars : List Variable} :
    (∃ v, lastOf id vars = some v) ↔ id ∈ vars.map Variable.id := by
  rw [← Option.isSome_iff_exists, ← Option.ne_none_iff_isSome, lastOf, ne_eq,
    List.getLast?_eq_none_iff, List.filter_eq_nil_iff]
  simp

theorem ofList_concat (vars : List Variable) (v : Variable) :
    ofList (vars ++ [v]) = (ofList vars).insert v := by
  rw [ofList, List.foldl_append]
  rfl

/-- A table holds the variable that was declared last. -/
theorem get?_ofList (vars : List Variable) (id : UInt16) :
    (ofList vars).get? id = lastOf id vars := by
  induction vars using List.reverseRecOn with
  | nil => rfl
  | append_singleton vars v ih => rw [ofList_concat, get?_insert, ih, lastOf_concat]

theorem nodup_ids (table : VariableTable) : (table.toList.map Variable.id).Nodup := by
  refine List.pairwise_map.mpr (table.ordered.imp fun below same => ?_)
  exact UInt16.lt_irrefl _ (same ▸ below)

/-- A table is what it holds. -/
theorem eq_of_get?_eq {table other : VariableTable} (same : ∀ id, table.get? id = other.get? id) :
    table = other := by
  have members : ∀ v, v ∈ table.toList ↔ v ∈ other.toList := by
    intro v
    have held := table.get?_eq_some_iff v.id v
    rw [same, other.get?_eq_some_iff] at held
    simpa using held.symm
  have perm : table.toList.Perm other.toList :=
    (List.perm_ext_iff_of_nodup table.nodup_ids.of_map other.nodup_ids.of_map).mpr members
  refine eq_of_toList_eq (perm.eq_of_pairwise (fun v w _ _ below above => ?_)
    table.ordered other.ordered)
  exact absurd (UInt16.lt_trans below above) (UInt16.lt_irrefl _)

/-- Two lists of declarations make the same table exactly if they agree on the last one of every
id. -/
theorem ofList_eq_iff {vars others : List Variable} :
    ofList vars = ofList others ↔ ∀ id, lastOf id vars = lastOf id others := by
  simp only [← get?_ofList]
  exact ⟨fun same _ => same ▸ rfl, eq_of_get?_eq⟩

theorem ofList_eq_of_reordered {vars others : List Variable} (reordered : Reordered vars others) :
    ofList vars = ofList others :=
  ofList_eq_iff.mpr fun id => congrArg List.getLast? (reordered.kept id)

/-- A table lists an id exactly if it was declared. -/
theorem id_mem_ofList_iff {vars : List Variable} {id : UInt16} :
    id ∈ (ofList vars).toList.map Variable.id ↔ id ∈ vars.map Variable.id := by
  rw [← @exists_lastOf_iff id vars, List.mem_map]
  simp only [← get?_ofList, get?_eq_some_iff]

/-- A table lists of an id the variable that was declared last. -/
theorem mem_ofList_iff {vars : List Variable} {v : Variable} :
    v ∈ (ofList vars).toList ↔ lastOf v.id vars = some v := by
  rw [← get?_ofList, get?_eq_some_iff, and_iff_left rfl]

/-- A table has as many variables as there are ids among the declarations. -/
theorem size_ofList (vars : List Variable) :
    (ofList vars).size = (vars.map Variable.id).dedup.length := by
  have perm : ((ofList vars).toList.map Variable.id).Perm (vars.map Variable.id).dedup := by
    refine (List.perm_ext_iff_of_nodup (nodup_ids _) (List.nodup_dedup _)).mpr fun id => ?_
    rw [List.mem_dedup, id_mem_ofList_iff]
  rw [← perm.length_eq, List.length_map]
  rfl

/-- The table of declarations, whatever they are. One more declaration gives back the last one
before it with its id, and goes into the table. The table lists its variables in strictly increasing
order of ids; these are the declared ids, each with the variable that was declared last, and as many
as there are different ones; and asking for an id finds what is listed. So a project that declares
in another order, in which declarations of one id keep theirs, has the same outcomes and the same
globals file. -/
theorem last_wins :
    (∀ vars : List Variable,
      (∀ v, (ofList vars).exchange v = (lastOf v.id vars, ofList (vars ++ [v]))) ∧
      ((ofList vars).toList.Pairwise fun v w => v.id < w.id) ∧
      (∀ id, id ∈ (ofList vars).toList.map Variable.id ↔ id ∈ vars.map Variable.id) ∧
      (∀ v, v ∈ (ofList vars).toList ↔ lastOf v.id vars = some v) ∧
      (ofList vars).size = (vars.map Variable.id).dedup.length ∧
      ∀ id v, (ofList vars).get? id = some v ↔ v ∈ (ofList vars).toList ∧ v.id = id) ∧
    ∀ (project : Project) (others : List Variable), Reordered project.declared others →
      let reordered : Project := { project with declared := others }
      (∀ encoding, reordered.reconstruct encoding = project.reconstruct encoding) ∧
        ∀ format, reordered.table.globalsText format = project.table.globalsText format := by
  refine ⟨fun vars => ⟨fun v => ?_, (ofList vars).ordered, fun _ => id_mem_ofList_iff,
    fun _ => mem_ofList_iff, size_ofList vars, (ofList vars).get?_eq_some_iff⟩, ?_⟩
  · rw [exchange, get?_ofList, ofList_concat]
  · intro project others order reordered
    have table : reordered.table = project.table := (ofList_eq_of_reordered order).symm
    refine ⟨fun encoding => ?_, fun format => by rw [table]⟩
    rw [Project.reconstruct, Project.reconstruct, table]

/-- Two declarations of one id with another between them, which may come first as well. -/
theorem last_wins_reordered :
    let old : Variable := ⟨.global, 0, 7, 1, [], some "old", none⟩
    let between : Variable := ⟨.global, 0, 2, 3, [4], none, none⟩
    let new : Variable := ⟨.global, 0, 7, 1, [], some "new", some (.int 5)⟩
    let command : CompiledCommand :=
      ⟨"WAIT", 0, 0, 0, [⟨0, 0, 0, 0, none, none, [0x48, 3, 0, 0x40, 7, 0]⟩]⟩
    let project : Project := ⟨[old, between, new], [⟨1, "a.yst", [], [command]⟩]⟩
    let reordered : Project := { project with declared := [between, old, new] }
    Reordered project.declared reordered.declared ∧
      (project.table.globalsText .text = "G_STR[$g2(4)]\nG_INT[@new=5]\n" ∧
        (project.reconstruct .utf8).map (·.render? .text) = [some "WAIT[@new]\n"]) ∧
      (∀ encoding, reordered.reconstruct encoding = project.reconstruct encoding) ∧
      ∀ format, reordered.table.globalsText format = project.table.globalsText format := by
  intro old between new command project reordered
  have order : Reordered project.declared reordered.declared :=
    .swap (v := old) (w := between) (by decide) [] [new]
  refine ⟨order, ⟨by with_unfolding_all rfl, by with_unfolding_all rfl⟩, ?_⟩
  exact last_wins.2 project reordered.declared order

end VariableTable

end NovelScript
