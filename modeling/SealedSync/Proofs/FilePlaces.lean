import SealedSync.Proofs.Storage
import SealedSync.Simulation.Files

/-!
# Where paths lead

A path leads to a name in a directory. Which names that is depends on directories alone, so it stays
the same while files are written, replaced and moved away; each of these changes what stands under the
names it is about and nothing else.
-/
namespace SealedSync

theorem NameMap.get?_erase {α : Type} (m : NameMap α) (name other : String) :
    (m.erase name).get? other = if other = name then none else m.get? other := by
  have cleared (entries : List (String × α)) :
      (entries.filter fun e => e.1 != name).lookup other =
        if other = name then none else entries.lookup other := by
    induction entries with
    | nil => simp
    | cons head rest ih =>
        obtain ⟨first, a⟩ := head
        by_cases same : first = name
        · rw [List.filter_cons_of_neg (by simpa using same), ih, lookup_cons, same]
          split <;> rfl
        · rw [List.filter_cons_of_pos (by simpa using same), lookup_cons, lookup_cons, ih]
          split
          · rename_i found
            rw [if_neg (found ▸ same)]
          · rfl
  exact cleared m.entries

theorem Except.bind_eq_ok {ε α β : Type} {first : Except ε α} {next : α → Except ε β} {b : β} :
    first >>= next = .ok b ↔ ∃ a, first = .ok a ∧ next a = .ok b := by
  cases first with
  | error e => exact ⟨nofun, fun ⟨_, found, _⟩ => nomatch found⟩
  | ok a =>
      constructor
      · exact fun found => ⟨a, rfl, found⟩
      · rintro ⟨_, ⟨⟩, found⟩
        exact found

namespace Simulation.Files

variable {f g : Files} {path source target : String} {names others place : List String}
  {bytes : List UInt8} {node : FileNode}

/-- Names in one directory have the same key only if they are the same. -/
theorem key_concat {name other : String} (same : key (place ++ [name]) = key (place ++ [other])) :
    name = other := by
  induction place with
  | nil => simpa [key] using same
  | cons first place ih =>
      have behind (name : String) :
          key (first :: place ++ [name]) = first ++ "/" ++ key (place ++ [name]) := by
        cases place with
        | nil => rfl
        | cons next place => exact String.intercalate_cons_cons
      have texts := congrArg String.toList ((behind name).symm.trans (same.trans (behind other)))
      simp only [String.toList_append] at texts
      exact ih (String.toList_inj.mp (List.append_cancel_left texts))

/-! ## What stands under a name -/

theorem node?_eq (f : Files) (nonempty : names ≠ []) : f.node? names = f.nodes.get? (key names) := by
  rw [node?, List.isEmpty_eq_false_iff.mpr nonempty]
  rfl

theorem ne_nil_of_node? (apart : f.node? names ≠ some .directory) : names ≠ [] := by
  rintro rfl
  exact apart rfl

theorem node?_put (f : Files) (names : List String) (node : FileNode) (nonempty : others ≠ []) :
    (f.put names node).node? others =
      if key others = key names then some node else f.node? others := by
  rw [node?_eq _ nonempty, node?_eq _ nonempty]
  exact f.nodes.get?_insert (key names) (key others) node

/-- The files without the one under some names. -/
def without (f : Files) (names : List String) : Files := ⟨f.nodes.erase (key names)⟩

theorem node?_without (f : Files) (names : List String) (nonempty : others ≠ []) :
    (f.without names).node? others = if key others = key names then none else f.node? others := by
  rw [node?_eq _ nonempty, node?_eq _ nonempty]
  exact f.nodes.get?_erase (key names) (key others)

/-- Files with the same directories. -/
def SameDirectories (f g : Files) : Prop :=
  ∀ names, f.node? names = some .directory ↔ g.node? names = some .directory

theorem SameDirectories.trans {h : Files} (first : f.SameDirectories g)
    (second : g.SameDirectories h) : f.SameDirectories h :=
  fun names => (first names).trans (second names)

theorem node?_ne_of_key (apart : f.node? names ≠ some .directory) (nonempty : others ≠ [])
    (same : key others = key names) : f.node? others ≠ some .directory := by
  rwa [node?_eq f nonempty, same, ← node?_eq f (ne_nil_of_node? apart)]

theorem sameDirectories_put (apart : f.node? names ≠ some .directory) (bytes : List UInt8) :
    f.SameDirectories (f.put names (.file bytes)) := by
  intro others
  by_cases nonempty : others = []
  · subst nonempty
    exact Iff.rfl
  · rw [node?_put f names _ nonempty]
    split
    · rename_i same
      exact ⟨fun directory => absurd directory (node?_ne_of_key apart nonempty same), nofun⟩
    · exact Iff.rfl

theorem sameDirectories_without (apart : f.node? names ≠ some .directory) :
    f.SameDirectories (f.without names) := by
  intro others
  by_cases nonempty : others = []
  · subst nonempty
    exact Iff.rfl
  · rw [node?_without f names nonempty]
    split
    · rename_i same
      exact ⟨fun directory => absurd directory (node?_ne_of_key apart nonempty same), nofun⟩
    · exact Iff.rfl

/-! ## Paths -/

theorem enter_append (f : Files) (place names others : List String) :
    f.enter place (names ++ others) = (f.enter place names).bind fun place => f.enter place others := by
  induction names generalizing place with
  | nil => rfl
  | cons name names ih =>
      simp only [List.cons_append, enter, ih]
      split
      · rfl
      · split
        · rfl
        · cases checkName name with
          | error fault => rfl
          | ok _ =>
              simp only [bind, Except.bind]
              split
              · rfl
              · rfl
              · rfl

/-- A name leads on if it is the one of a directory. -/
theorem enter_cons {name : String} (proper : name ∉ [".", ".."]) {rest reached : List String} :
    f.enter place (name :: rest) = .ok reached ↔ checkName name = .ok () ∧
      f.node? (place ++ [name]) = some .directory ∧
        f.enter (place ++ [name]) rest = .ok reached := by
  simp only [List.mem_cons, List.not_mem_nil, or_false, not_or] at proper
  rw [enter, if_neg proper.1, if_neg proper.2]
  cases checkName name with
  | error fault => exact ⟨nofun, fun found => nomatch found.1⟩
  | ok _ =>
      simp only [bind, Except.bind, true_and]
      split
      · rename_i found
        simp [found]
      · rename_i found
        simp [found, throw, throwThe, MonadExceptOf.throw]
      · rename_i found
        simp [found, throw, throwThe, MonadExceptOf.throw]

/-- Directories alone decide where names lead to. -/
theorem SameDirectories.enter (same : f.SameDirectories g) {place reached : List String} :
    f.enter place names = .ok reached ↔ g.enter place names = .ok reached := by
  induction names generalizing place with
  | nil => exact Iff.rfl
  | cons name names ih =>
      by_cases proper : name ∈ [".", ".."]
      · simp only [List.mem_cons, List.not_mem_nil, or_false] at proper
        simp only [Files.enter]
        rcases proper with rfl | rfl
        · exact ih
        · exact ih
      · rw [enter_cons proper, enter_cons proper, same (place ++ [name]), ih]

/-- Directories alone decide what a path leads to. -/
theorem SameDirectories.goal (same : f.SameDirectories g) {goal : Goal} :
    f.goal path = .ok goal ↔ g.goal path = .ok goal := by
  simp only [Files.goal, Except.bind_eq_ok]
  refine exists_congr fun _ => and_congr_right fun _ => ?_
  unfold follow
  split
  · exact Iff.rfl
  · split
    · simp only [Except.bind_eq_ok, same.enter]
    · simp only [Except.bind_eq_ok, same.enter]

/-- A path leads to a name in a directory, which the path does not ask to be a directory. -/
def Leads (f : Files) (path : String) (names : List String) : Prop :=
  f.goal path = .ok (.entry names false)

theorem ne_nil_of_goal {asDirectory : Bool} (led : f.goal path = .ok (.entry names asDirectory)) :
    names ≠ [] := by
  simp only [Files.goal, Except.bind_eq_ok] at led
  obtain ⟨_, _, led⟩ := led
  unfold follow at led
  split at led
  · cases led
  · split at led
    · simp only [Except.bind_eq_ok] at led
      obtain ⟨_, _, led⟩ := led
      cases led
    · simp only [Except.bind_eq_ok] at led
      obtain ⟨_, _, _, _, led⟩ := led
      cases led
      exact List.append_ne_nil_of_right_ne_nil _ (List.cons_ne_nil _ _)

theorem read_of_leads (led : f.Leads path names) :
    f.read path = match f.node? names with
      | some (.file bytes) => .ok bytes
      | some .directory => .error .isDirectory
      | none => .error .notFound := by
  have led : f.goal path = .ok (.entry names false) := led
  rw [read, led]
  simp only [bind, Except.bind]
  cases f.node? names with
  | none => rfl
  | some node => cases node <;> rfl

/-- A file is written where a path leads to, unless a directory is there. -/
theorem write_eq_ok : f.write path bytes = .ok g ↔ ∃ names, f.Leads path names ∧
    f.node? names ≠ some .directory ∧ g = f.put names (.file bytes) := by
  simp only [write, Except.bind_eq_ok, Leads]
  constructor
  · rintro ⟨goal, led, written⟩
    split at written
    · cases written
    · rename_i names asDirectory
      split at written
      · rename_i file
        cases written
        exact ⟨names, led, by simp [file], rfl⟩
      · rename_i missing
        cases written
        exact ⟨names, led, by simp [missing], rfl⟩
      · cases written
  · rintro ⟨names, led, apart, rfl⟩
    refine ⟨_, led, ?_⟩
    simp only
    cases found : f.node? names with
    | none => rfl
    | some node =>
        cases node with
        | file old => rfl
        | directory => exact absurd found apart

/-- A file is moved to where a path leads to, unless a directory is there. -/
theorem rename_eq_ok : f.rename source target = .ok g ↔ ∃ old asDirectory new bytes,
    f.goal source = .ok (.entry old asDirectory) ∧ f.Leads target new ∧
      f.node? old = some (.file bytes) ∧ f.node? new ≠ some .directory ∧
        g = (f.without old).put new (.file bytes) := by
  simp only [rename, Except.bind_eq_ok, Leads]
  constructor
  · rintro ⟨start, led, finish, aimed, moved⟩
    split at moved
    · rename_i old asDirectory new newAsDirectory
      split at moved
      · rename_i bytes file
        cases newAsDirectory with
        | true => cases moved
        | false =>
            simp only [Bool.false_eq_true, if_false] at moved
            split at moved
            · cases moved
            · rename_i apart
              cases moved
              exact ⟨old, asDirectory, new, bytes, led, aimed, file, apart, rfl⟩
      · cases moved
      · cases moved
    · cases moved
  · rintro ⟨old, asDirectory, new, bytes, led, aimed, file, apart, rfl⟩
    refine ⟨_, led, _, aimed, ?_⟩
    simp only [file, Bool.false_eq_true, if_false]
    cases found : f.node? new with
    | none => rfl
    | some node =>
        cases node with
        | file old => rfl
        | directory => exact absurd found apart

theorem sameDirectories_write (written : f.write path bytes = .ok g) : f.SameDirectories g := by
  obtain ⟨names, -, apart, rfl⟩ := write_eq_ok.mp written
  exact sameDirectories_put apart bytes

theorem sameDirectories_rename (moved : f.rename source target = .ok g) : f.SameDirectories g := by
  obtain ⟨old, _, new, bytes, -, -, file, apart, rfl⟩ := rename_eq_ok.mp moved
  have cleared : f.SameDirectories (f.without old) := sameDirectories_without (by simp [file])
  exact cleared.trans (sameDirectories_put (fun found => apart ((cleared new).mpr found)) bytes)

end Simulation.Files

end SealedSync
