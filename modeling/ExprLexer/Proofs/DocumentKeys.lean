import ExprLexer.Toml.Document
import Mathlib.Data.List.Nodup

/-!
The keys of a document, and what stands under them in the end.

* `Item.exists_of_within`: all that happens to entries at the first name of a path;
* `Item.at?`: what stands under a key with dots;
* `Item.nodup_of_putKeys`, `nodup_of_enterHeaders`: **no key stands twice behind a header, nor before
  the first**;
* `Item.Opens`: a step that opens a table under a name, and leaves all other names alone;
* `Standing`: how a name stands in a document by the rows that begin with it, and
  `standing_of_enterHeaders`: **these rows alone decide what stands under the name**.

A table under a name comes from headers and dotted keys, and nothing else comes from these.  So a value
under a name has one row of its own, before the first header, and no other row begins with the name.
-/

namespace ExprLexer.Toml

namespace Item

variable {entries next : Entries} {name other : String} {item : Item}

/-! ### Entries under a name -/

theorem lookup_concat_self (missing : entries.lookup name = none) (item : Item) :
    (entries ++ [(name, item)]).lookup name = some item := by
  rw [List.lookup_append, missing, List.lookup_cons_self]
  rfl

theorem lookup_concat_of_ne (differs : other ≠ name) (item : Item) :
    (entries ++ [(name, item)]).lookup other = entries.lookup other := by
  rw [List.lookup_append, List.lookup_cons, beq_false_of_ne differs]
  exact Option.or_none

theorem lookup_replace_self (found : entries.lookup name ≠ none) (item : Item) :
    (replace entries name item).lookup name = some item := by
  induction entries with
  | nil => exact absurd rfl found
  | cons entry rest ih =>
    obtain ⟨key, old⟩ := entry
    rw [replace, List.map_cons]
    by_cases same : key = name
    · rw [if_pos same, List.lookup_cons_self]
    · rw [if_neg same, List.lookup_cons, beq_false_of_ne (Ne.symm same)]
      rw [List.lookup_cons, beq_false_of_ne (Ne.symm same)] at found
      exact ih found

theorem lookup_replace_of_ne (differs : other ≠ name) (item : Item) :
    (replace entries name item).lookup other = entries.lookup other := by
  induction entries with
  | nil => rfl
  | cons entry rest ih =>
    obtain ⟨key, old⟩ := entry
    rw [replace, List.map_cons, List.lookup_cons]
    by_cases same : key = name
    · rw [if_pos same, List.lookup_cons, same, beq_false_of_ne differs]
      exact ih
    · rw [if_neg same, List.lookup_cons]
      cases other == key with
      | true => rfl
      | false => exact ih

theorem lookup_filter_of_ne (differs : other ≠ name) :
    (entries.filter (·.1 ≠ name)).lookup other = entries.lookup other := by
  induction entries with
  | nil => rfl
  | cons entry rest ih =>
    obtain ⟨key, old⟩ := entry
    rw [List.lookup_cons]
    by_cases same : key = name
    · rw [List.filter_cons_of_neg (by simpa using same), same, beq_false_of_ne differs]
      exact ih
    · rw [List.filter_cons_of_pos (by simpa using same), List.lookup_cons]
      cases other == key with
      | true => rfl
      | false => exact ih

/-- Once the name is taken out, it is added anew. -/
theorem lookup_filter_concat_self (entries : Entries) (name : String) (item : Item) :
    (entries.filter (·.1 ≠ name) ++ [(name, item)]).lookup name = some item := by
  refine lookup_concat_self ?_ item
  rw [List.lookup_eq_none_iff]
  intro entry member
  rw [bne_iff_ne]
  have differs := (List.mem_filter.mp member).2
  exact fun same => absurd same.symm (by simpa using differs)

/-! ### Steps on a path -/

variable {dotted : Bool} {change : Origin → Entries → Option Entries} {path : List String}
  {origin : Origin}

/-- What stands under the first name of a path before a change and behind it: a table is made, a table
is changed, or the last of a list of tables is. -/
inductive Reached (dotted : Bool) (change : Origin → Entries → Option Entries) (path : List String) :
    Option Item → Item → Prop
  | made {origin : Origin} {inner : Entries}
      (done : within dotted change origin path [] = some inner) :
      Reached dotted change path none (.table origin inner)
  | table {origin : Origin} {old inner : Entries}
      (done : within dotted change origin path old = some inner) :
      Reached dotted change path (some (.table origin old)) (.table origin inner)
  | last {elements : List Entries} {old inner : Entries} (last : elements.getLast? = some old)
      (done : within dotted change .header path old = some inner) :
      Reached dotted change path (some (.tables elements)) (.tables (elements.dropLast ++ [inner]))

/-- **A change at the end of a path reaches it through the first name**, and leaves all others. -/
theorem exists_of_within (done : within dotted change origin (name :: path) entries = some next) :
    ∃ before item, entries.lookup name = before ∧ Reached dotted change path before item
      ∧ next.lookup name = some item ∧ ∀ other, other ≠ name → next.lookup other = entries.lookup other := by
  rw [within] at done
  cases found : entries.lookup name with
  | none =>
    rw [found] at done
    obtain ⟨inner, changed, rfl⟩ := Option.map_eq_some_iff.mp done
    exact ⟨_, _, rfl, .made changed, lookup_concat_self found _,
      fun _ differs => lookup_concat_of_ne differs _⟩
  | some item =>
    have there : entries.lookup name ≠ none := by simp [found]
    rw [found] at done
    split at done
    · contradiction
    · next same =>
      obtain rfl := Option.some.inj same
      split at done
      · cases done
      · obtain ⟨inner, changed, rfl⟩ := Option.map_eq_some_iff.mp done
        exact ⟨_, _, rfl, .table changed, lookup_replace_self there _,
          fun _ differs => lookup_replace_of_ne differs _⟩
    · next same =>
      obtain rfl := Option.some.inj same
      obtain ⟨inner, changed, rfl⟩ := Option.map_eq_some_iff.mp done
      obtain ⟨old, last, changed⟩ := Option.bind_eq_some_iff.mp changed
      exact ⟨_, _, rfl, .last last changed, lookup_replace_self there _,
        fun _ differs => lookup_replace_of_ne differs _⟩
    · cases done

/-- The change was made to the table at the end. -/
theorem exists_change_of_within (done : within dotted change origin path entries = some next) :
    ∃ origin old new, change origin old = some new := by
  induction path generalizing origin entries next with
  | nil => exact ⟨origin, entries, next, done⟩
  | cons name path ih =>
    obtain ⟨before, item, -, reached, -⟩ := exists_of_within done
    cases reached with
    | made done => exact ih done
    | table done => exact ih done
    | last last done => exact ih done

/-! ### Keys with dots -/

/-- What stands under a name at the end of a path.  A list of tables stands for its last one. -/
def at? : List String → String → Entries → Option Item
  | [], name, entries => entries.lookup name
  | parent :: path, name, entries =>
    match entries.lookup parent with
    | some (.table _ inner) => at? path name inner
    | some (.tables elements) => elements.getLast?.bind (at? path name)
    | _ => none

theorem at?_congr {first second : Entries} {parent : String} {path : List String}
    (same : first.lookup parent = second.lookup parent) :
    at? (parent :: path) name first = at? (parent :: path) name second := by
  rw [at?, at?, same]

/-- **A key is entered where nothing stands**, and whatever stood elsewhere still stands there. -/
theorem at?_of_within {parents : List String}
    (enters : ∀ origin old new, change origin old = some new →
      old.lookup name = none ∧ new = old ++ [(name, item)])
    (done : within dotted change origin parents entries = some next) :
    at? parents name entries = none ∧ at? parents name next = some item
      ∧ ∀ path other, at? path other entries ≠ none → at? path other next ≠ none := by
  induction parents generalizing origin entries next with
  | nil =>
    obtain ⟨missing, rfl⟩ := enters origin entries next done
    refine ⟨missing, lookup_concat_self missing item, fun path other stands => ?_⟩
    cases path with
    | nil =>
      by_cases same : other = name
      · exact absurd (same ▸ missing) stands
      · rw [at?, lookup_concat_of_ne same]
        exact stands
    | cons parent path =>
      by_cases same : parent = name
      · rw [at?, same, missing] at stands
        exact absurd rfl stands
      · rw [at?_congr (lookup_concat_of_ne same item)]
        exact stands
  | cons parent parents ih =>
    obtain ⟨before, standing, found, reached, opened, others⟩ := exists_of_within done
    -- what stands under other names, and the name itself, are the same for all ways to get on
    have keeps (path : List String) (other : String)
        (deeper : ∀ later, path = parent :: later → at? path other entries ≠ none →
          at? path other next ≠ none) :
        at? path other entries ≠ none → at? path other next ≠ none := by
      intro stands
      cases path with
      | nil =>
        by_cases same : other = parent
        · rw [at?, same, opened]
          nofun
        · rw [at?, others other same]
          exact stands
      | cons first later =>
        by_cases same : first = parent
        · exact deeper later (same ▸ rfl) stands
        · rw [at?_congr (others first same)]
          exact stands
    cases reached with
    | made done =>
      obtain ⟨-, entered, -⟩ := ih done
      refine ⟨by rw [at?, found], by rw [at?, opened]; exact entered,
        fun path other => keeps path other fun later begins stands => ?_⟩
      rw [begins, at?, found] at stands
      exact absurd rfl stands
    | table done =>
      obtain ⟨free, entered, kept⟩ := ih done
      refine ⟨by rw [at?, found]; exact free, by rw [at?, opened]; exact entered,
        fun path other => keeps path other fun later begins stands => ?_⟩
      rw [begins, at?, found] at stands
      rw [begins, at?, opened]
      exact kept later other stands
    | @last elements old inner last done =>
      obtain ⟨free, entered, kept⟩ := ih done
      have final : (elements.dropLast ++ [inner]).getLast? = some inner := List.getLast?_concat
      refine ⟨by rw [at?, found]; dsimp only; rw [last]; exact free,
        by rw [at?, opened]; dsimp only; rw [final]; exact entered,
        fun path other => keeps path other fun later begins stands => ?_⟩
      rw [begins, at?, found] at stands
      dsimp only at stands
      rw [last] at stands
      rw [begins, at?, opened]
      dsimp only
      rw [final]
      exact kept later other stands

theorem at?_of_putKey {key : KeyPath} (done : putKey entries key item = some next) :
    at? key.parents key.name entries = none ∧ at? key.parents key.name next = some item
      ∧ ∀ path other, at? path other entries ≠ none → at? path other next ≠ none := by
  refine at?_of_within (fun origin old new put => ?_) done
  split at put
  · cases put
  · split at put
    · cases put
    · next missing =>
      exact ⟨Option.not_isSome_iff_eq_none.mp missing, (Option.some.inj put).symm⟩

/-- **Keys that are entered one after the other are different**, and nothing stood under them. -/
theorem nodup_of_putKeys {keys : List (KeyPath × Item)} (done : putKeys entries keys = some next) :
    (keys.map (·.1)).Nodup
      ∧ ∀ key ∈ keys.map (·.1), at? key.parents key.name entries = none := by
  induction keys generalizing entries with
  | nil => exact ⟨List.nodup_nil, nofun⟩
  | cons pair keys ih =>
    obtain ⟨key, item⟩ := pair
    obtain ⟨between, put, later⟩ := Option.bind_eq_some_iff.mp done
    obtain ⟨free, entered, kept⟩ := at?_of_putKey put
    obtain ⟨nodup, frees⟩ := ih later
    rw [List.map_cons]
    refine ⟨List.nodup_cons.mpr ⟨fun member => ?_, nodup⟩, List.forall_mem_cons.mpr ⟨free, ?_⟩⟩
    · cases (frees key member).symm.trans entered
    · intro other member
      by_contra stands
      exact kept _ _ stands (frees other member)

/-! ### Steps that open tables -/

/-- Whether it is a table or a list of tables, made by headers and keys with dots. -/
def isTable : Item → Bool
  | .table _ _ | .tables _ => true
  | _ => false

/-- A step leaves all names alone but one, under which a table stands from then on; before, nothing
else stood there. -/
structure Opens (name : String) (before after : Entries) : Prop where
  others : ∀ other, other ≠ name → after.lookup other = before.lookup other
  free : ∀ item, before.lookup name = some item → item.isTable = true
  opened : ∃ item, after.lookup name = some item ∧ item.isTable = true

/-- A change further down a path opens a table under its first name. -/
theorem opens_of_within (origin : Origin)
    (done : within dotted change origin (name :: path) entries = some next) :
    Opens name entries next := by
  obtain ⟨before, item, found, reached, opened, others⟩ := exists_of_within done
  cases reached with
  | made =>
    refine ⟨others, fun item stands => ?_, _, opened, rfl⟩
    cases found.symm.trans stands
  | table =>
    refine ⟨others, fun item stands => ?_, _, opened, rfl⟩
    obtain rfl := Option.some.inj (found.symm.trans stands)
    rfl
  | last =>
    refine ⟨others, fun item stands => ?_, _, opened, rfl⟩
    obtain rfl := Option.some.inj (found.symm.trans stands)
    rfl

end Item

/-- The first name of a key. -/
def KeyPath.first (key : KeyPath) : String := key.parents.headD key.name

namespace Item

variable {entries next : Entries} {key : KeyPath} {item : Item} {keys : List (KeyPath × Item)}

/-- A key with dots opens a table. -/
theorem opens_of_putKey (dots : key.parents ≠ []) (done : putKey entries key item = some next) :
    Opens key.first entries next := by
  obtain ⟨parents, name⟩ := key
  cases parents with
  | nil => exact absurd rfl dots
  | cons first later => exact opens_of_within .header done

/-- A key without dots is entered under a name where nothing stands. -/
theorem eq_concat_of_putKey (plain : key.parents = []) (done : putKey entries key item = some next) :
    key.first = key.name ∧ entries.lookup key.name = none ∧ next = entries ++ [(key.name, item)] := by
  obtain ⟨parents, name⟩ := key
  obtain rfl : parents = [] := plain
  obtain ⟨free, entered, -⟩ := at?_of_putKey done
  refine ⟨rfl, free, ?_⟩
  have put : (if (entries.lookup name).isSome then none else some (entries ++ [(name, item)]))
      = some next := done
  have missing : ¬ (entries.lookup name).isSome = true := by
    have free : entries.lookup name = none := free
    simp [free]
  rw [if_neg missing] at put
  exact (Option.some.inj put).symm

/-- The header of a table opens one. -/
theorem opens_of_putTable (done : putTable entries key keys = some next) :
    Opens key.first entries next := by
  obtain ⟨parents, name⟩ := key
  cases parents with
  | cons first later => exact opens_of_within .header done
  | nil =>
    show Opens name entries next
    have opens {built : Entries} (free : ∀ item, entries.lookup name = some item → item.isTable = true) :
        Opens name entries (entries.filter (·.1 ≠ name) ++ [(name, .table .header built)]) :=
      ⟨fun other differs => (lookup_concat_of_ne differs _).trans (lookup_filter_of_ne differs), free,
        _, lookup_filter_concat_self _ _ _, rfl⟩
    unfold putTable within at done
    dsimp only at done
    split at done
    · next missing =>
      obtain ⟨built, -, rfl⟩ := Option.map_eq_some_iff.mp done
      exact opens fun item stands => by cases missing.symm.trans stands
    · next old standing =>
      obtain ⟨built, -, rfl⟩ := Option.map_eq_some_iff.mp done
      refine opens fun item stands => ?_
      obtain rfl := Option.some.inj (standing.symm.trans stands)
      rfl
    · cases done

/-- The header of one more table of a list opens one. -/
theorem opens_of_putElement (done : putElement entries key keys = some next) :
    Opens key.first entries next := by
  obtain ⟨parents, name⟩ := key
  cases parents with
  | cons first later => exact opens_of_within .header done
  | nil =>
    show Opens name entries next
    unfold putElement within at done
    dsimp only at done
    split at done
    · next missing =>
      obtain ⟨built, -, rfl⟩ := Option.map_eq_some_iff.mp done
      refine ⟨fun other differs => lookup_concat_of_ne differs _, fun item stands => ?_, _,
        lookup_concat_self missing _, rfl⟩
      cases missing.symm.trans stands
    · next elements standing =>
      obtain ⟨built, -, rfl⟩ := Option.map_eq_some_iff.mp done
      refine ⟨fun other differs => lookup_replace_of_ne differs _, fun item stands => ?_, _,
        lookup_replace_self (by rw [standing]; nofun) _, rfl⟩
      obtain rfl := Option.some.inj (standing.symm.trans stands)
      rfl
    · cases done

end Item

/-! ### The rows of a document -/

/-- The key of a header. -/
def Statement.header? : Statement → Option KeyPath
  | .pair _ _ => none
  | .table key | .element key => some key

/-- The keys of all headers. -/
def headers (rows : List Statement) : List KeyPath := rows.filterMap Statement.header?

variable {entries final : Entries} {rows : List Statement} {name : String}

theorem headers_splitPairs (rows : List Statement) : headers (splitPairs rows).2 = headers rows := by
  fun_induction splitPairs rows with
  | case1 key item rest ih => exact ih
  | case2 => rfl

/-- Behind the keys up to a header comes that header. -/
theorem splitPairs_splitPairs (rows : List Statement) :
    splitPairs (splitPairs rows).2 = ([], (splitPairs rows).2) := by
  fun_induction splitPairs rows with
  | case1 key item rest ih => exact ih
  | case2 rows noPair => rw [splitPairs]; exact noPair

/-- Rows behind a header lie behind the keys that come before it. -/
theorem exists_of_splitPairs {front rest : List Statement} {header : Statement}
    (opens : header.header? ≠ none) (split : rows = front ++ header :: rest) :
    ∃ between, (splitPairs rows).2 = between ++ header :: rest := by
  fun_induction splitPairs rows generalizing front with
  | case1 key item later ih =>
    cases front with
    | nil =>
      obtain ⟨rfl, -⟩ := List.cons.inj split
      exact absurd rfl opens
    | cons first front => exact ih (List.cons.inj split).2
  | case2 => exact ⟨front, split⟩

/-- The keys before the first header are entered first. -/
theorem enterHeaders_eq (entries : Entries) (rows : List Statement) :
    enterHeaders entries rows
      = (Item.putKeys entries (splitPairs rows).1).bind (enterHeaders · (splitPairs rows).2) := by
  fun_induction splitPairs rows generalizing entries with
  | case1 key item rest ih =>
    show _ = ((Item.putKey entries key item).bind fun between =>
      Item.putKeys between (splitPairs rest).1).bind _
    rw [enterHeaders, Option.bind_assoc]
    exact Option.bind_congr fun between _ => ih between
  | case2 => rfl

/-- The keys behind a header are entered into its table. -/
theorem exists_putKeys_of_header {key : KeyPath} {keys : List (KeyPath × Item)} {next : Entries}
    (done : Item.putTable entries key keys = some next ∨ Item.putElement entries key keys = some next) :
    ∃ old built, Item.putKeys old keys = some built := by
  rcases done with done | done
  · obtain ⟨origin, inner, new, put⟩ := Item.exists_change_of_within done
    dsimp only at put
    split at put
    · obtain ⟨built, entered, -⟩ := Option.map_eq_some_iff.mp put
      exact ⟨_, built, entered⟩
    · obtain ⟨built, entered, -⟩ := Option.map_eq_some_iff.mp put
      exact ⟨_, built, entered⟩
    · cases put
  · obtain ⟨origin, inner, new, put⟩ := Item.exists_change_of_within done
    split at put
    · obtain ⟨built, entered, -⟩ := Option.map_eq_some_iff.mp put
      exact ⟨_, built, entered⟩
    · obtain ⟨built, entered, -⟩ := Option.map_eq_some_iff.mp put
      exact ⟨_, built, entered⟩
    · cases put

/-- **No key stands twice behind a header.** -/
theorem nodup_of_header {front rest : List Statement} {header : Statement}
    (opens : header.header? ≠ none) (split : rows = front ++ header :: rest)
    (done : enterHeaders entries rows = some final) : ((splitPairs rest).1.map (·.1)).Nodup := by
  induction entries, rows using enterHeaders.induct generalizing front with
  | case1 entries =>
    cases front with
    | nil => cases split
    | cons first front => cases split
  | case2 entries key item later ih =>
    rw [enterHeaders] at done
    obtain ⟨between, -, done⟩ := Option.bind_eq_some_iff.mp done
    cases front with
    | nil =>
      obtain ⟨rfl, -⟩ := List.cons.inj split
      exact absurd rfl opens
    | cons first front => exact ih between (List.cons.inj split).2 done
  | case3 entries key later ih =>
    rw [enterHeaders] at done
    obtain ⟨between, put, done⟩ := Option.bind_eq_some_iff.mp done
    cases front with
    | nil =>
      obtain ⟨-, rfl⟩ := List.cons.inj split
      obtain ⟨old, built, entered⟩ := exists_putKeys_of_header (Or.inl put)
      exact (Item.nodup_of_putKeys entered).1
    | cons first front =>
      obtain ⟨front, split⟩ := exists_of_splitPairs opens (List.cons.inj split).2
      exact ih between split done
  | case4 entries key later ih =>
    rw [enterHeaders] at done
    obtain ⟨between, put, done⟩ := Option.bind_eq_some_iff.mp done
    cases front with
    | nil =>
      obtain ⟨-, rfl⟩ := List.cons.inj split
      obtain ⟨old, built, entered⟩ := exists_putKeys_of_header (Or.inr put)
      exact (Item.nodup_of_putKeys entered).1
    | cons first front =>
      obtain ⟨front, split⟩ := exists_of_splitPairs opens (List.cons.inj split).2
      exact ih between split done

/-- No key stands twice before the first header. -/
theorem nodup_of_enterHeaders (done : enterHeaders entries rows = some final) :
    ((splitPairs rows).1.map (·.1)).Nodup := by
  rw [enterHeaders_eq] at done
  obtain ⟨between, entered, -⟩ := Option.bind_eq_some_iff.mp done
  exact (Item.nodup_of_putKeys entered).1

/-! ### Rows that begin with a name -/

/-- How a name stands in a document, by the keys before the first header and by the headers. -/
inductive Standing (name : String) (keys : List (KeyPath × Item)) (headers : List KeyPath) :
    Option Item → Prop
  /-- Nothing begins with the name. -/
  | absent (noKey : keys.filter (·.1.first = name) = [])
      (noHeader : headers.filter (·.first = name) = []) : Standing name keys headers none
  /-- The name has a row of its own, and nothing else begins with it. -/
  | value {item : Item} (only : keys.filter (·.1.first = name) = [(⟨[], name⟩, item)])
      (noHeader : headers.filter (·.first = name) = []) (plain : item.isTable = false) :
      Standing name keys headers (some item)
  /-- Headers and keys with dots make a table under the name. -/
  | table {item : Item} (dots : ∀ pair ∈ keys.filter (·.1.first = name), pair.1.parents ≠ [])
      (some : keys.filter (·.1.first = name) ≠ [] ∨ headers.filter (·.first = name) ≠ [])
      (holds : item.isTable = true) :
      Standing name keys headers (.some item)

namespace Standing

variable {keys more : List (KeyPath × Item)} {headers more' : List KeyPath} {before after : Entries}

/-- Only the rows that begin with the name count. -/
theorem congr {standing : Option Item} (stands : Standing name keys headers standing)
    (sameKeys : more.filter (·.1.first = name) = keys.filter (·.1.first = name))
    (sameHeaders : more'.filter (·.first = name) = headers.filter (·.first = name)) :
    Standing name more more' standing := by
  cases stands with
  | absent noKey noHeader => exact .absent (sameKeys.trans noKey) (sameHeaders.trans noHeader)
  | value only noHeader plain => exact .value (sameKeys.trans only) (sameHeaders.trans noHeader) plain
  | table dots some holds =>
    rw [← sameKeys] at dots some
    rw [← sameHeaders] at some
    exact .table dots some holds

/-- More rows that open a table under one and the same name. -/
theorem opens {first : String} (more : List (KeyPath × Item)) (more' : List KeyPath)
    (stands : Standing name keys headers (before.lookup name)) (opens : Item.Opens first before after)
    (dots : ∀ pair ∈ more, pair.1.parents ≠ [] ∧ pair.1.first = first)
    (begins : ∀ key ∈ more', key.first = first) (some : more ≠ [] ∨ more' ≠ []) :
    Standing name (keys ++ more) (headers ++ more') (after.lookup name) := by
  by_cases same : first = name
  · subst same
    have keysBegin : more.filter (·.1.first = first) = more :=
      List.filter_eq_self.mpr fun pair member => decide_eq_true (dots pair member).2
    have headersBegin : more'.filter (·.first = first) = more' :=
      List.filter_eq_self.mpr fun key member => decide_eq_true (begins key member)
    have earlier : ∀ pair ∈ keys.filter (·.1.first = first), pair.1.parents ≠ [] := by
      generalize standing : before.lookup first = found at stands
      cases stands with
      | absent noKey noHeader =>
        rw [noKey]
        nofun
      | value only noHeader plain => cases (opens.free _ standing).symm.trans plain
      | table dots => exact dots
    obtain ⟨item, stands, holds⟩ := opens.opened
    rw [stands]
    refine .table ?_ ?_ holds
    · rw [List.filter_append, keysBegin]
      exact List.forall_mem_append.mpr ⟨earlier, fun pair member => (dots pair member).1⟩
    · rw [List.filter_append, List.filter_append, keysBegin, headersBegin]
      exact some.imp (fun more => by simp [more]) (fun more => by simp [more])
  · rw [opens.others name (Ne.symm same)]
    have keysDiffer : more.filter (·.1.first = name) = [] :=
      List.filter_eq_nil_iff.mpr fun pair member => by simpa [(dots pair member).2] using same
    have headersDiffer : more'.filter (·.first = name) = [] :=
      List.filter_eq_nil_iff.mpr fun key member => by simpa [begins key member] using same
    refine stands.congr ?_ ?_
    · rw [List.filter_append, keysDiffer, List.append_nil]
    · rw [List.filter_append, headersDiffer, List.append_nil]

/-- One more key. -/
theorem putKey {key : KeyPath} {item : Item} (plain : item.isTable = false)
    (stands : Standing name keys headers (before.lookup name))
    (done : Item.putKey before key item = some after) :
    Standing name (keys ++ [(key, item)]) headers (after.lookup name) := by
  by_cases bare : key.parents = []
  · obtain ⟨first, missing, rfl⟩ := Item.eq_concat_of_putKey bare done
    by_cases same : key.name = name
    · subst same
      rw [missing] at stands
      rw [Item.lookup_concat_self missing]
      cases stands with
      | absent noKey noHeader =>
        refine .value ?_ noHeader plain
        obtain ⟨parents, own⟩ := key
        obtain rfl : parents = [] := bare
        rw [List.filter_append, noKey, List.nil_append]
        exact List.filter_eq_self.mpr (by simp [KeyPath.first])
    · rw [Item.lookup_concat_of_ne (Ne.symm same)]
      refine stands.congr ?_ rfl
      rw [List.filter_append, List.filter_cons_of_neg (by simpa [first] using same), List.filter_nil,
        List.append_nil]
  · have one := Standing.opens [(key, item)] [] stands (Item.opens_of_putKey bare done)
      (by simpa using bare) nofun
      (Or.inl nofun)
    rwa [List.append_nil] at one

/-- One more header. -/
theorem header {key : KeyPath} (stands : Standing name keys headers (before.lookup name))
    (opens : Item.Opens key.first before after) :
    Standing name keys (headers ++ [key]) (after.lookup name) := by
  have one := Standing.opens [] [key] stands opens nofun (by simp) (Or.inr nofun)
  rwa [List.append_nil] at one

/-- More keys. -/
theorem putKeys (plain : ∀ pair ∈ more, pair.2.isTable = false)
    (stands : Standing name keys headers (before.lookup name))
    (done : Item.putKeys before more = some after) :
    Standing name (keys ++ more) headers (after.lookup name) := by
  induction more generalizing keys before with
  | nil =>
    obtain rfl := Option.some.inj done
    rwa [List.append_nil]
  | cons pair more ih =>
    obtain ⟨here, later⟩ := List.forall_mem_cons.mp plain
    obtain ⟨between, put, done⟩ := Option.bind_eq_some_iff.mp done
    have next := ih later (stands.putKey here put) done
    rwa [List.append_assoc] at next

/-- More headers. -/
theorem enterHeaders (begins : (splitPairs rows).1 = [])
    (stands : Standing name keys headers (before.lookup name))
    (done : Toml.enterHeaders before rows = some after) :
    Standing name keys (headers ++ Toml.headers rows) (after.lookup name) := by
  induction before, rows using enterHeaders.induct generalizing headers with
  | case1 entries =>
    rw [Toml.enterHeaders] at done
    obtain rfl := Option.some.inj done
    rwa [Toml.headers, List.filterMap_nil, List.append_nil]
  | case2 entries key item rest ih => cases begins
  | case3 entries key rest ih =>
    rw [Toml.enterHeaders] at done
    obtain ⟨between, put, done⟩ := Option.bind_eq_some_iff.mp done
    have none : (splitPairs (splitPairs rest).2).1 = [] := by rw [splitPairs_splitPairs]
    have next := ih between none (stands.header (Item.opens_of_putTable put)) done
    rwa [List.append_assoc, headers_splitPairs] at next
  | case4 entries key rest ih =>
    rw [Toml.enterHeaders] at done
    obtain ⟨between, put, done⟩ := Option.bind_eq_some_iff.mp done
    have none : (splitPairs (splitPairs rest).2).1 = [] := by rw [splitPairs_splitPairs]
    have next := ih between none (stands.header (Item.opens_of_putElement put)) done
    rwa [List.append_assoc, headers_splitPairs] at next

end Standing

/-- **What stands under a name is decided by the rows that begin with it.** -/
theorem standing_of_enterHeaders (plain : ∀ pair ∈ (splitPairs rows).1, pair.2.isTable = false)
    (done : enterHeaders [] rows = some entries) :
    Standing name (splitPairs rows).1 (headers rows) (entries.lookup name) := by
  rw [enterHeaders_eq] at done
  obtain ⟨between, entered, done⟩ := Option.bind_eq_some_iff.mp done
  have empty : Standing name [] [] (([] : Entries).lookup name) := .absent rfl rfl
  have none : (splitPairs (splitPairs rows).2).1 = [] := by rw [splitPairs_splitPairs]
  have stands := (empty.putKeys plain entered).enterHeaders none done
  rwa [headers_splitPairs] at stands

end ExprLexer.Toml
