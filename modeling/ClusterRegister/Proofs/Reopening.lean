import ClusterRegister.Files.StoreFile

/-!
# Reopening stores

A store that is open can be closed and opened again under its path, and then has the tables with which it
was closed.
-/

namespace ClusterRegister.Files

open ClusterRegister.Register

namespace Tree

private theorem lookup_filter_ne {place other : Place} (different : other ≠ place) (es : List (Place × Entry)) :
    (es.filter (·.1 ≠ place)).lookup other = es.lookup other := by
  induction es with
  | nil => rfl
  | cons head rest ih =>
    obtain ⟨key, e⟩ := head
    by_cases dropped : key = place
    · subst dropped
      have apart : (other == key) = false := beq_eq_false_iff_ne.2 different
      rw [List.filter_cons_of_neg (by simp), List.lookup_cons, apart]
      exact ih
    · rw [List.filter_cons_of_pos (by simpa using dropped), List.lookup_cons, List.lookup_cons, ih]

theorem at_set_self (t : Tree) {place : Place} (below : place ≠ []) (e : Entry) :
    Tree.entry? (t.set place e) place = some e := by
  unfold Tree.entry?
  rw [if_neg below]
  simp [set]

theorem at_set_ne (t : Tree) {place other : Place} (different : other ≠ place) (e : Entry) :
    Tree.entry? (t.set place e) other = t.entry? other := by
  have apart : (other == place) = false := beq_eq_false_iff_ne.2 different
  unfold Tree.entry?
  simp only [set, List.lookup_cons, apart, lookup_filter_ne different]

theorem ne_root_of_at {t : Tree} {place : Place} (not_directory : t.entry? place ≠ some .directory) :
    place ≠ [] := by
  rintro rfl
  exact not_directory rfl

/-- A tree with all that another one has, where directories are still directories. -/
structure Grows (t t' : Tree) : Prop where
  working : t'.working = t.working
  directories : ∀ place, t.entry? place = some .directory → t'.entry? place = some .directory
  present : ∀ place, t'.entry? place = none → t.entry? place = none

theorem Grows.trans {t t' t'' : Tree} (first : Grows t t') (second : Grows t' t'') : Grows t t'' where
  working := second.working.trans first.working
  directories place is_directory := second.directories place (first.directories place is_directory)
  present place missing := first.present place (second.present place missing)

/-- Putting an entry where no directory is lets a tree grow. -/
theorem grows_set {t : Tree} {place : Place} (not_directory : t.entry? place ≠ some .directory) (e : Entry) :
    Grows t (t.set place e) where
  working := rfl
  directories other is_directory := by
    have different : other ≠ place := by
      rintro rfl
      exact not_directory is_directory
    rw [at_set_ne t different]
    exact is_directory
  present other missing := by
    by_cases here : other = place
    · subst here
      rw [at_set_self t (ne_root_of_at not_directory)] at missing
      cases missing
    · rwa [at_set_ne t here] at missing

section Growing

variable {t t' : Tree} (grows : Grows t t')

include grows

private theorem follow_of_grows {place dest : Place} {names : List String}
    (reached : t.follow place names = .ok dest) : t'.follow place names = .ok dest := by
  induction names generalizing place with
  | nil => exact reached
  | cons name rest ih =>
    rw [follow] at reached ⊢
    cases here : t.entry? place with
    | none =>
      rw [here] at reached
      cases reached
    | some e =>
      rw [here] at reached
      cases e with
      | directory =>
        rw [grows.directories place here]
        simp only at reached ⊢
        split at reached
        · next short =>
          rw [if_pos short]
          exact ih reached
        · cases reached
      | file bytes => cases reached
      | store tables => cases reached

private theorem locate_of_grows {path : String} {place : Place} (named : t.locate path = .ok place) :
    t'.locate path = .ok place := by
  rw [locate, locateAlong] at named ⊢
  split at named
  · cases named
  next no_nul =>
  rw [if_neg no_nul]
  split at named
  · cases named
  next nonempty =>
  rw [if_neg nonempty]
  split at named
  · cases named
  next short =>
  rw [if_neg short, grows.working]
  exact follow_of_grows grows named

private theorem filePlace_of_grows {path : String} {place : Place} (named : t.filePlace path = .ok place) :
    t'.filePlace path = .ok place := by
  rw [filePlace] at named ⊢
  split at named
  · cases above : t.locateAbove path with
    | ok place =>
      rw [above] at named
      cases named
    | error e =>
      rw [above] at named
      cases named
  next no_slash =>
  rw [if_neg no_slash]
  exact locate_of_grows grows named

private theorem pathExists_of_grows {path : String} (is_there : t.pathExists path = true) :
    t'.pathExists path = true := by
  rw [pathExists, find] at is_there ⊢
  cases named : t.locate path with
  | error e =>
    rw [named] at is_there
    cases is_there
  | ok place =>
    rw [named] at is_there
    rw [locate_of_grows grows named]
    simp only [bind, Except.bind] at is_there ⊢
    by_cases directory : t.entry? place = some .directory
    · rw [grows.directories place directory]
      rfl
    -- what is no directory is named only by a path without a slash at its end
    · have no_slash : ¬ Path.endsInSlash path = true := by
        intro slash
        simp only [slash, if_true] at is_there
        cases here : t.entry? place with
        | none => rw [here] at is_there; cases is_there
        | some e =>
          cases e with
          | directory => exact directory here
          | file bytes => rw [here] at is_there; cases is_there
          | store tables => rw [here] at is_there; cases is_there
      simp only [no_slash, Bool.false_eq_true, if_false]
      cases now : t'.entry? place with
      | none =>
        rw [grows.present place now] at is_there
        cases is_there
      | some e => cases e <;> rfl

end Growing

private theorem pathExists_of_makeDirectory {t t' : Tree} {path : String} (made : t.makeDirectory path = .ok t') :
    t'.pathExists path = true := by
  rw [makeDirectory] at made
  cases named : t.locate path with
  | error e =>
    rw [named] at made
    cases made
  | ok place =>
    rw [named] at made
    simp only [bind, Except.bind] at made
    cases here : t.entry? place with
    | some e =>
      rw [here] at made
      cases made
    | none =>
      rw [here] at made
      cases made
      have not_directory : t.entry? place ≠ some .directory := by
        rw [here]
        exact fun same => by cases same
      have located := locate_of_grows (grows_set not_directory .directory) named
      rw [pathExists, find, located]
      simp only [bind, Except.bind, at_set_self t (ne_root_of_at not_directory)]
      rfl

private theorem pathExists_of_isDirectory {t : Tree} {path : String} (directory : t.isDirectory path = true) :
    t.pathExists path = true := by
  rw [isDirectory] at directory
  rw [pathExists]
  cases found : t.find path with
  | error e =>
    rw [found] at directory
    cases directory
  | ok e => rfl

private theorem pathExists_of_orThere {t t' : Tree} {path : String} {made : Except OsError Tree}
    (new : ∀ t'', made = .ok t'' → t''.pathExists path = true)
    (there : makeDirectories.orThere path t made = (.ok (), t')) : t'.pathExists path = true := by
  rw [makeDirectories.orThere.eq_def] at there
  cases made with
  | ok t'' =>
    cases there
    exact new t' rfl
  | error e =>
    simp only at there
    split at there
    · next directory =>
      cases there
      exact pathExists_of_isDirectory directory
    · cases there

private theorem pathExists_of_makeDirectories {fuel : Nat} {path : String} {t t' : Tree} (nonempty : path ≠ "")
    (made : t.makeDirectories (fuel + 1) path = (.ok (), t')) : t'.pathExists path = true := by
  rw [makeDirectories, if_neg nonempty] at made
  split at made
  · next t'' at_once =>
    cases made
    exact pathExists_of_makeDirectory at_once
  · split at made
    · cases made
    · split at made
      · cases made
      · exact pathExists_of_orThere (fun t'' => pathExists_of_makeDirectory) made
  · exact pathExists_of_orThere (fun t'' same => by cases same) made

/-- A tree in which a store is open at the place that a path names. -/
structure HasOpen (t : Tree) (path : String) (place : Place) : Prop where
  named : t.filePlace path = .ok place
  stored : ∃ tables, t.entry? place = some (.store tables)
  above : ∀ above, Path.parent? path = some above → above = "" ∨ t.pathExists above = true

private theorem not_directory_of_storeAt {t : Tree} {place : Place} {tables : Tables}
    (found : t.storeAt place = .ok tables) : t.entry? place ≠ some .directory := by
  intro directory
  rw [storeAt, directory] at found
  cases found

/-- Nothing but the entries and the working directory of a tree matters to what paths name. -/
theorem Grows.of_entries {t t' : Tree} (entries : t'.entries = t.entries) (working : t'.working = t.working) :
    Grows t t' where
  working := working
  directories place is_directory := by
    unfold Tree.entry? at is_directory ⊢
    rwa [entries]
  present place missing := by
    unfold Tree.entry? at missing ⊢
    rwa [← entries]

theorem HasOpen.of_holdStore {t t' : Tree} {path : String} {place : Place} {tables : Tables}
    (above : ∀ above, Path.parent? path = some above → above = "" ∨ t.pathExists above = true)
    (held : t.holdStore path = (.ok (place, tables), t')) : HasOpen t' path place := by
  rw [holdStore] at held
  cases named : t.filePlace path with
  | error e =>
    rw [named] at held
    cases held
  | ok there =>
    rw [named] at held
    cases found : t.storeAt there with
    | error e =>
      simp only [found] at held
      cases held
    | ok those =>
      simp only [found] at held
      cases held
      have not_directory := not_directory_of_storeAt found
      have grows : Grows t { t.set place (.store tables) with held := place :: t.held } :=
        (grows_set not_directory _).trans (.of_entries rfl rfl)
      refine ⟨filePlace_of_grows grows named, ⟨tables, ?_⟩, ?_⟩
      · exact at_set_self t (ne_root_of_at not_directory) _
      · intro parent is_parent
        exact (above parent is_parent).imp id (pathExists_of_grows grows)

theorem HasOpen.of_openStore {t t' : Tree} {path : String} {place : Place} {tables : Tables}
    (opened : t.openStore path = (.ok (place, tables), t')) : HasOpen t' path place := by
  rw [openStore] at opened
  cases parent : Path.parent? path with
  | none =>
    rw [parent] at opened
    refine HasOpen.of_holdStore ?_ opened
    intro above same
    rw [parent] at same
    cases same
  | some above =>
    rw [parent] at opened
    simp only at opened
    split at opened
    · next there =>
      refine HasOpen.of_holdStore ?_ opened
      intro other same
      rw [parent] at same
      cases same
      simpa using there
    · next missing =>
      have nonempty : above ≠ "" := by
        rintro rfl
        exact missing rfl
      split at opened
      · cases opened
      · next made =>
        refine HasOpen.of_holdStore ?_ opened
        intro other same
        rw [parent] at same
        cases same
        exact .inr (pathExists_of_makeDirectories nonempty made)

/-- A store that is open can be closed and opened again, with the tables that it was closed with. -/
theorem HasOpen.reopen {t : Tree} {path : String} {place : Place} (is_open : HasOpen t path place)
    (tables : Tables) :
    ∃ t', (t.closeStore place tables).openStore path = (.ok (place, tables), t') ∧ HasOpen t' path place := by
  obtain ⟨stored, at_place⟩ := is_open.stored
  have not_directory : t.entry? place ≠ some .directory := by
    rw [at_place]
    exact fun same => by cases same
  have grows : Grows t (t.closeStore place tables) :=
    (grows_set not_directory _).trans (.of_entries rfl rfl)
  have named := filePlace_of_grows grows is_open.named
  have found : (t.closeStore place tables).storeAt place = .ok tables := by
    have now : Tree.entry? (t.closeStore place tables) place = some (.store tables) :=
      at_set_self t (ne_root_of_at not_directory) _
    have free : (t.closeStore place tables).held.contains place = false := by simp [closeStore]
    rw [storeAt, now]
    simp only [free, Bool.false_eq_true, if_false]
  have above : ∀ above, Path.parent? path = some above →
      above = "" ∨ (t.closeStore place tables).pathExists above = true := by
    intro parent is_parent
    exact (is_open.above parent is_parent).imp id (pathExists_of_grows grows)
  have held : (t.closeStore place tables).openStore path =
      (.ok (place, tables), ((t.closeStore place tables).holdStore path).2) := by
    have hold : ((t.closeStore place tables).holdStore path).1 = .ok (place, tables) := by
      rw [holdStore, named]
      simp only [found]
    rw [openStore]
    cases parent : Path.parent? path with
    | none => exact Prod.ext hold rfl
    | some up =>
      have there : (up = "" || (t.closeStore place tables).pathExists up) = true := by
        simpa using above up parent
      simp only [there, if_true]
      exact Prod.ext hold rfl
  exact ⟨_, held, .of_openStore held⟩

end Tree

end ClusterRegister.Files
