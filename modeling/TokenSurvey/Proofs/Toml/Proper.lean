import TokenSurvey.Toml.Document

/-! Documents that are read are proper: their integers have 64 bits, and no table has a key twice. -/
namespace TokenSurvey.Toml

def DistinctKeys {α : Type} (entries : List (String × α)) : Prop := (entries.map Prod.fst).Nodup

inductive Proper : Toml → Prop where
  | string (text : String) : Proper (.string text)
  | integer {n : Int} (low : minInteger ≤ n) (high : n ≤ maxInteger) : Proper (.integer n)
  | float (literal : String) : Proper (.float literal)
  | boolean (b : Bool) : Proper (.boolean b)
  | moment (literal : String) : Proper (.moment literal)
  | array {items : List Toml} (h : ∀ v ∈ items, Proper v) : Proper (.array items)
  | table {entries : List (String × Toml)} (keys : DistinctKeys entries)
      (h : ∀ e ∈ entries, Proper e.2) : Proper (.table entries)

theorem proper_table_iff {entries : List (String × Toml)} : (Toml.table entries).Proper ↔
    DistinctKeys entries ∧ ∀ e ∈ entries, e.2.Proper := by
  constructor
  · rintro ⟨⟩
    next keys h => exact ⟨keys, h⟩
  · rintro ⟨keys, h⟩
    exact .table keys h

/-- The same of what is under construction. -/
inductive Node.Proper : Node → Prop where
  | value {v : Toml} (h : v.Proper) : Proper (.value v)
  | table {origin : Origin} {es : Entries} (keys : DistinctKeys es) (h : ∀ e ∈ es, Proper e.2) :
      Proper (.table origin es)
  | tables {earlier : List Entries} {latest : Entries}
      (keys : ∀ es ∈ latest :: earlier, DistinctKeys es)
      (h : ∀ es ∈ latest :: earlier, ∀ e ∈ es, Proper e.2) : Proper (.tables earlier latest)

structure Entries.Proper (es : Entries) : Prop where
  keys : DistinctKeys es
  nodes : ∀ e ∈ es, e.2.Proper

section Tables

variable {es es' : Entries} {earlier : List Entries} {latest : Entries} {key : String}
  {f : Option Node → Option Node} {origin : Origin} {v : Toml}

theorem Entries.proper_nil : Entries.Proper [] := ⟨.nil, by simp⟩

theorem Node.proper_table_iff : Node.Proper (.table origin es) ↔ Entries.Proper es := by
  constructor
  · rintro ⟨⟩
    next keys h => exact ⟨keys, h⟩
  · rintro ⟨keys, h⟩
    exact .table keys h

theorem Node.proper_tables_iff : Node.Proper (.tables earlier latest) ↔
    Entries.Proper latest ∧ ∀ es ∈ earlier, Entries.Proper es := by
  rw [← List.forall_mem_cons]
  constructor
  · rintro ⟨⟩
    next keys h => exact fun es hes => ⟨keys es hes, h es hes⟩
  · intro h
    exact .tables (fun es hes => (h es hes).keys) fun es hes => (h es hes).nodes

theorem Entries.mem_keys_of_update (h : Entries.update key f es = some es') {k : String}
    (hk : k ∈ es'.map Prod.fst) : k = key ∨ k ∈ es.map Prod.fst := by
  induction es generalizing es' with
  | nil =>
    obtain ⟨n, -, rfl⟩ := Option.map_eq_some_iff.mp h
    exact .inl (by simpa using hk)
  | cons e es ih =>
    rw [update] at h
    split at h
    · obtain ⟨n, -, rfl⟩ := Option.map_eq_some_iff.mp h
      exact .inr hk
    · obtain ⟨rest, hrest, rfl⟩ := Option.map_eq_some_iff.mp h
      rcases List.mem_cons.mp hk with rfl | hk
      · exact .inr (by simp)
      · exact (ih hrest hk).imp_right (List.mem_cons_of_mem _)

/-- What is put under a key must be proper if what it replaces is. -/
theorem Entries.Proper.update (hes : Entries.Proper es)
    (hf : ∀ n n', (∀ m ∈ n, Node.Proper m) → f n = some n' → n'.Proper)
    (h : Entries.update key f es = some es') : Entries.Proper es' := by
  induction es generalizing es' with
  | nil =>
    obtain ⟨n, hn, rfl⟩ := Option.map_eq_some_iff.mp h
    exact ⟨by simp [DistinctKeys], List.forall_mem_singleton.mpr (hf none n (by simp) hn)⟩
  | cons e es ih =>
    obtain ⟨k, n⟩ := e
    obtain ⟨first, others⟩ := List.forall_mem_cons.mp hes.nodes
    obtain ⟨new, distinct⟩ := List.nodup_cons.mp hes.keys
    rw [Entries.update] at h
    split at h
    · obtain ⟨n', hn, rfl⟩ := Option.map_eq_some_iff.mp h
      exact ⟨hes.keys, List.forall_mem_cons.mpr ⟨hf (some n) n' (by simpa using first) hn, others⟩⟩
    · next other =>
      obtain ⟨rest, hrest, rfl⟩ := Option.map_eq_some_iff.mp h
      have proper := ih ⟨distinct, others⟩ hrest
      refine ⟨List.nodup_cons.mpr ⟨fun hk => ?_, proper.keys⟩,
        List.forall_mem_cons.mpr ⟨first, proper.nodes⟩⟩
      exact (mem_keys_of_update hrest hk).elim other new

theorem Entries.Proper.put (hv : v.Proper) (path : List String) (hes : Entries.Proper es)
    (h : Entries.put v path es = some es') : Entries.Proper es' := by
  induction path generalizing es es' with
  | nil => cases h
  | cons key keys ih =>
    cases keys with
    | nil =>
      refine hes.update (fun n n' _ hn => ?_) h
      cases n with
      | none =>
        obtain rfl := Option.some.inj hn
        exact .value hv
      | some n => cases hn
    | cons next keys =>
      refine hes.update (fun n n' proper hn => ?_) h
      split at hn
      · obtain ⟨inner, hinner, rfl⟩ := Option.map_eq_some_iff.mp hn
        exact Node.proper_table_iff.mpr (ih proper_nil hinner)
      · cases hn
      · next origin inner _ =>
        have proper := Node.proper_table_iff.mp (proper _ rfl)
        split at hn
        · cases hn
        · obtain ⟨inner', hinner, rfl⟩ := Option.map_eq_some_iff.mp hn
          exact Node.proper_table_iff.mpr (ih proper hinner)
      · next earlier latest =>
        obtain ⟨last, others⟩ := Node.proper_tables_iff.mp (proper _ rfl)
        split at hn
        · cases hn
        · obtain ⟨latest', hlatest, rfl⟩ := Option.map_eq_some_iff.mp hn
          exact Node.proper_tables_iff.mpr ⟨ih last hlatest, others⟩
      · cases hn

theorem Entries.Proper.within {change : Entries → Option Entries}
    (hchange : ∀ es es', Entries.Proper es → change es = some es' → Entries.Proper es')
    (path : List String) (hes : Entries.Proper es)
    (h : Entries.within change path es = some es') : Entries.Proper es' := by
  induction path generalizing es es' with
  | nil => exact hchange es es' hes h
  | cons key keys ih =>
    refine hes.update (fun n n' proper hn => ?_) h
    split at hn
    · obtain ⟨inner, hinner, rfl⟩ := Option.map_eq_some_iff.mp hn
      exact Node.proper_table_iff.mpr (ih proper_nil hinner)
    · next origin inner =>
      obtain ⟨inner', hinner, rfl⟩ := Option.map_eq_some_iff.mp hn
      exact Node.proper_table_iff.mpr (ih (Node.proper_table_iff.mp (proper _ rfl)) hinner)
    · next earlier latest =>
      obtain ⟨last, others⟩ := Node.proper_tables_iff.mp (proper _ rfl)
      obtain ⟨latest', hlatest, rfl⟩ := Option.map_eq_some_iff.mp hn
      exact Node.proper_tables_iff.mpr ⟨ih last hlatest, others⟩
    · cases hn

theorem Entries.Proper.openTable (hes : Entries.Proper es)
    (h : Entries.openTable key es = some es') : Entries.Proper es' := by
  refine hes.update (fun n n' proper hn => ?_) h
  split at hn
  · obtain rfl := Option.some.inj hn
    exact Node.proper_table_iff.mpr proper_nil
  · obtain rfl := Option.some.inj hn
    exact Node.proper_table_iff.mpr (Node.proper_table_iff.mp (proper _ rfl))
  · cases hn

theorem Entries.Proper.addTable (hes : Entries.Proper es)
    (h : Entries.addTable key es = some es') : Entries.Proper es' := by
  refine hes.update (fun n n' proper hn => ?_) h
  split at hn
  · obtain rfl := Option.some.inj hn
    exact Node.proper_tables_iff.mpr ⟨proper_nil, by simp⟩
  · next earlier latest =>
    obtain rfl := Option.some.inj hn
    obtain ⟨last, others⟩ := Node.proper_tables_iff.mp (proper _ rfl)
    refine Node.proper_tables_iff.mpr ⟨proper_nil, List.forall_mem_append.mpr ⟨others, ?_⟩⟩
    exact List.forall_mem_singleton.mpr last
  · cases hn

theorem distinctKeys_entriesToml (h : DistinctKeys es) : DistinctKeys (entriesToml es) := by
  have same (es : Entries) : (entriesToml es).map Prod.fst = es.map Prod.fst := by
    induction es with
    | nil => rfl
    | cons e es ih => rw [entriesToml, List.map_cons, List.map_cons, ih]
  rwa [DistinctKeys, same]

mutual

theorem Node.Proper.toml : ∀ n : Node, n.Proper → n.toml.Proper
  | .value _, .value h => h
  | .table _ es, h => by
    have proper := Node.proper_table_iff.mp h
    rw [Node.toml]
    exact .table (distinctKeys_entriesToml proper.keys) (proper_entriesToml es proper.nodes)
  | .tables earlier latest, h => by
    obtain ⟨last, others⟩ := Node.proper_tables_iff.mp h
    rw [Node.toml]
    refine .array (List.forall_mem_append.mpr
      ⟨proper_tablesToml earlier others, List.forall_mem_singleton.mpr ?_⟩)
    exact .table (distinctKeys_entriesToml last.keys)
      (proper_entriesToml latest last.nodes)

theorem proper_entriesToml : ∀ es : Entries, (∀ e ∈ es, e.2.Proper) →
    ∀ e ∈ entriesToml es, e.2.Proper
  | [], _ => by simp [entriesToml]
  | (k, n) :: es, h => by
    obtain ⟨first, others⟩ := List.forall_mem_cons.mp h
    rw [entriesToml]
    exact List.forall_mem_cons.mpr ⟨Node.Proper.toml n first, proper_entriesToml es others⟩

theorem proper_tablesToml : ∀ ts : List Entries, (∀ es ∈ ts, Entries.Proper es) →
    ∀ v ∈ tablesToml ts, v.Proper
  | [], _ => by simp [tablesToml]
  | es :: ts, h => by
    obtain ⟨first, others⟩ := List.forall_mem_cons.mp h
    rw [tablesToml]
    refine List.forall_mem_cons.mpr ⟨?_, proper_tablesToml ts others⟩
    exact .table (distinctKeys_entriesToml first.keys) (proper_entriesToml es first.nodes)

end

theorem Entries.Proper.toml (h : Entries.Proper es) : (Toml.table (entriesToml es)).Proper :=
  Node.Proper.toml (.table .header es) (Node.proper_table_iff.mpr h)

end Tables

section Reading

variable {α : Type} {s rest : List Char} {v : Toml} {read : Reader Toml}

/-- Whatever a reader makes of a text has a property. -/
def Yields (read : Reader α) (P : α → Prop) : Prop := ∀ s a rest, read s = some (a, rest) → P a

theorem proper_of_integer? {n : Int} (h : integer? n = some v) : v.Proper := by
  rw [integer?] at h
  split at h
  · next bounds =>
    obtain rfl := Option.some.inj h
    exact .integer bounds.1 bounds.2
  · cases h

theorem yields_readBase (base : Nat) (isDigit : Char → Bool) :
    Yields (readBase base isDigit) Proper := by
  intro s v rest h
  simp only [readBase, Option.bind_eq_bind, Option.bind_eq_some_iff, Option.pure_def] at h
  obtain ⟨⟨digits, after⟩, -, n, hn, h⟩ := h
  obtain ⟨rfl, -⟩ := Prod.mk.inj (Option.some.inj h)
  exact proper_of_integer? hn

theorem yields_readDecimal (negative : Bool) : Yields (readDecimal negative) Proper := by
  intro s v rest h
  simp only [readDecimal, Option.bind_eq_bind, Option.bind_eq_some_iff] at h
  obtain ⟨⟨whole, s₁⟩, -, ⟨fraction, s₂⟩, -, ⟨power, s₃⟩, -, h⟩ := h
  split at h
  · obtain ⟨n, hn, h⟩ := Option.bind_eq_some_iff.mp h
    obtain ⟨rfl, -⟩ := Prod.mk.inj (Option.some.inj h)
    exact proper_of_integer? hn
  · split at h
    · obtain ⟨rfl, -⟩ := Prod.mk.inj (Option.some.inj h)
      exact .float _
    · cases h

theorem yields_readSpecial : Yields readSpecial Proper := by
  intro s v rest h
  unfold readSpecial at h
  split at h
  · obtain ⟨rfl, -⟩ := Prod.mk.inj (Option.some.inj h)
    exact .float _
  · obtain ⟨rfl, -⟩ := Prod.mk.inj (Option.some.inj h)
    exact .float _
  · cases h

theorem yields_readNumber : Yields readNumber Proper := by
  intro s v rest h
  unfold readNumber at h
  split at h
  · exact yields_readBase _ _ _ _ _ h
  · exact yields_readBase _ _ _ _ _ h
  · exact yields_readBase _ _ _ _ _ h
  · simp only at h
    split at h
    · next found hfound =>
      obtain rfl := Option.some.inj h
      exact yields_readSpecial _ _ _ hfound
    · exact yields_readDecimal _ _ _ _ h

theorem yields_readMoment : Yields readMoment Proper := by
  intro s v rest h
  rw [readMoment] at h
  split at h
  all_goals
    obtain ⟨after, -, h⟩ := Option.bind_eq_some_iff.mp h
    obtain ⟨rfl, -⟩ := Prod.mk.inj (Option.some.inj h)
    exact .moment _

theorem yields_readScalar : Yields readScalar Proper := by
  intro s v rest h
  unfold readScalar at h
  split at h
  · cases h
  split at h
  · obtain ⟨t, -, h⟩ := Option.map_eq_some_iff.mp h
    obtain ⟨rfl, -⟩ := Prod.mk.inj h
    exact .string _
  split at h
  · split at h
    · obtain ⟨rfl, -⟩ := Prod.mk.inj (Option.some.inj h)
      exact .boolean _
    · obtain ⟨rfl, -⟩ := Prod.mk.inj (Option.some.inj h)
      exact .boolean _
    · cases h
  · obtain h | ⟨-, h⟩ := Option.or_eq_some_iff.mp h
    · exact yields_readMoment _ _ _ h
    · exact yields_readNumber _ _ _ h

theorem yields_readItems (hread : Yields read Proper) :
    Yields (readItems read) fun items => ∀ v ∈ items, v.Proper := by
  intro s items rest h
  fun_induction readItems read s generalizing items rest with
  | case1 | case3 | case6 | case7 => cases h
  | case2 s rest' hstart =>
    obtain ⟨rfl, -⟩ := Prod.mk.inj (Option.some.inj h)
    simp
  | case4 s start hstart _ v after hv rest' _ =>
    obtain ⟨rfl, -⟩ := Prod.mk.inj (Option.some.inj h)
    exact List.forall_mem_singleton.mpr (hread _ _ _ hv)
  | case5 s start hstart _ v after hv rest' _ shorter ih =>
    obtain ⟨⟨others, after'⟩, hothers, h⟩ := Option.map_eq_some_iff.mp h
    obtain ⟨rfl, -⟩ := Prod.mk.inj h
    exact List.forall_mem_cons.mpr ⟨hread _ _ _ hv, ih _ _ hothers⟩

theorem yields_readPair (hread : Yields read Proper) :
    Yields (readPair read) fun pair => pair.2.Proper := by
  intro s pair rest h
  obtain ⟨⟨key, after⟩, -, h⟩ := Option.bind_eq_some_iff.mp h
  simp only at h
  split at h
  · obtain ⟨⟨v, after'⟩, hv, h⟩ := Option.bind_eq_some_iff.mp h
    obtain ⟨rfl, -⟩ := Prod.mk.inj (Option.some.inj h)
    exact hread _ _ _ hv
  · cases h

theorem yields_readPairs (hread : Yields read Proper) :
    Yields (readPairs read) fun pairs => ∀ pair ∈ pairs, pair.2.Proper := by
  intro s pairs rest h
  fun_induction readPairs read s generalizing pairs rest with
  | case1 | case4 | case5 => cases h
  | case2 s pair after hpair rest' _ =>
    obtain ⟨rfl, -⟩ := Prod.mk.inj (Option.some.inj h)
    exact List.forall_mem_singleton.mpr (yields_readPair hread _ _ _ hpair)
  | case3 s pair after hpair rest' _ shorter ih =>
    obtain ⟨⟨others, after'⟩, hothers, h⟩ := Option.map_eq_some_iff.mp h
    obtain ⟨rfl, -⟩ := Prod.mk.inj h
    exact List.forall_mem_cons.mpr ⟨yields_readPair hread _ _ _ hpair, ih _ _ hothers⟩

/-- Pairs that are put one after another leave a table proper. -/
theorem Entries.Proper.putAll {pairs : List (List String × Toml)} {es es' : Entries}
    (hpairs : ∀ pair ∈ pairs, pair.2.Proper) (hes : Entries.Proper es)
    (h : pairs.foldlM (fun es (key, value) => Entries.put value key es) es = some es') :
    Entries.Proper es' := by
  induction pairs generalizing es with
  | nil =>
    obtain rfl := Option.some.inj h
    exact hes
  | cons pair pairs ih =>
    obtain ⟨first, others⟩ := List.forall_mem_cons.mp hpairs
    obtain ⟨middle, hmiddle, h⟩ := Option.bind_eq_some_iff.mp h
    exact ih others (hes.put first _ hmiddle) h

theorem yields_readInline (hread : Yields read Proper) : Yields (readInline read) Proper := by
  intro s v rest h
  unfold readInline at h
  split at h
  · obtain ⟨rfl, -⟩ := Prod.mk.inj (Option.some.inj h)
    exact .table .nil (by simp)
  · obtain ⟨⟨pairs, after⟩, hpairs, h⟩ := Option.bind_eq_some_iff.mp h
    obtain ⟨es, hes, h⟩ := Option.bind_eq_some_iff.mp h
    obtain ⟨rfl, -⟩ := Prod.mk.inj (Option.some.inj h)
    exact (Entries.proper_nil.putAll (yields_readPairs hread _ _ _ hpairs) hes).toml

theorem yields_readValue (depth : Nat) : Yields (readValue depth) Proper := by
  induction depth with
  | zero => exact yields_readScalar
  | succ depth ih =>
    intro s v rest h
    unfold readValue at h
    split at h
    · obtain ⟨⟨items, after⟩, hitems, h⟩ := Option.map_eq_some_iff.mp h
      obtain ⟨rfl, -⟩ := Prod.mk.inj h
      exact .array (yields_readItems ih _ _ _ hitems)
    · exact yields_readInline ih _ _ _ h
    · exact yields_readScalar _ _ _ h

def Line.Proper : Line → Prop
  | .pair _ value => value.Proper
  | .blank | .header _ | .arrayHeader _ => True

theorem yields_readPairLine : Yields readPairLine Line.Proper := by
  intro s line rest h
  obtain ⟨⟨⟨key, value⟩, after⟩, hpair, h⟩ := Option.bind_eq_some_iff.mp h
  obtain ⟨after', -, h⟩ := Option.bind_eq_some_iff.mp h
  obtain ⟨rfl, -⟩ := Prod.mk.inj (Option.some.inj h)
  exact yields_readPair (yields_readValue _) _ _ _ hpair

theorem yields_readLine : Yields readLine Line.Proper := by
  intro s line rest h
  unfold readLine at h
  split at h
  case h_1 | h_2 | h_3 =>
    obtain ⟨rfl, -⟩ := Prod.mk.inj (Option.some.inj h)
    trivial
  case h_4 =>
    obtain ⟨after, -, h⟩ := Option.map_eq_some_iff.mp h
    obtain ⟨rfl, -⟩ := Prod.mk.inj h
    trivial
  case h_5 | h_6 =>
    obtain ⟨path, -, h⟩ := Option.bind_eq_some_iff.mp h
    split at h
    · obtain ⟨after, -, h⟩ := Option.bind_eq_some_iff.mp h
      obtain ⟨rfl, -⟩ := Prod.mk.inj (Option.some.inj h)
      trivial
    · cases h
  case h_7 => exact yields_readPairLine _ _ _ h

theorem proper_add {d d' : Draft} {line : Line} (hd : Entries.Proper d.root) (hline : line.Proper)
    (h : d.add line = some d') : Entries.Proper d'.root := by
  cases line with
  | blank =>
    obtain rfl := Option.some.inj h
    exact hd
  | pair key value =>
    obtain ⟨root, hroot, rfl⟩ := Option.map_eq_some_iff.mp h
    exact hd.within (fun _ _ proper hput => proper.put hline _ hput) _ hroot
  | header path =>
    obtain ⟨root, hroot, rfl⟩ := Option.map_eq_some_iff.mp h
    exact hd.within (fun _ _ proper hopen => proper.openTable hopen) _ hroot
  | arrayHeader path =>
    obtain ⟨root, hroot, rfl⟩ := Option.map_eq_some_iff.mp h
    exact hd.within (fun _ _ proper hadd => proper.addTable hadd) _ hroot

theorem proper_readLines {d d' : Draft} (hd : Entries.Proper d.root)
    (h : readLines d s = some d') : Entries.Proper d'.root := by
  fun_induction readLines d s with
  | case1 d =>
    obtain rfl := Option.some.inj h
    exact hd
  | case2 | case4 => cases h
  | case3 d s _ line rest hline _ ih =>
    obtain ⟨next, hnext, h⟩ := Option.bind_eq_some_iff.mp h
    exact ih _ (proper_add hd (yields_readLine _ _ _ hline) hnext) h

theorem proper_of_read? {text : String} {entries : List (String × Toml)}
    (h : read? text = some entries) : (Toml.table entries).Proper := by
  obtain ⟨d, hd, rfl⟩ := Option.map_eq_some_iff.mp h
  exact (proper_readLines Entries.proper_nil hd).toml

end Reading

end TokenSurvey.Toml
