import HeapScope.Plugin
import HeapScope.Proofs.Removal
import Mathlib.Data.List.Nodup

/-!
# Histories of a plugin registry

A registry keeps its plugins apart in two ways: by what they do for which language, and by name.
Registering a plugin takes out the one that did the same, so the name has to be free among the
others only, and these stay where they are. The plugin itself comes last.

`Distinct` says that the plugins are kept apart, and each call keeps it so. Everything else follows
from it: taking out the first plugin that does something takes out all that do, and the plugins for
Kotlin, once registered, are the last two and are put there again.

The two plugins for Kotlin are registered one after the other, and nothing is undone if the second
one is refused. `BreaksOff` says when that shows.
-/

namespace HeapScope

/-- A plugin serves its own role and language. -/
theorem Plugin.serves_iff {p : Plugin} {role : PluginRole} {language : Language} :
    p.serves role language = true ↔ p.role = role ∧ p.language = language := by
  rw [serves, Bool.and_eq_true, beq_iff_eq, beq_iff_eq]

/-- It serves nothing else. -/
theorem Plugin.not_serves_iff {p : Plugin} {role : PluginRole} {language : Language} :
    (!p.serves role language) = true ↔ ¬ (p.role = role ∧ p.language = language) := by
  rw [Bool.not_eq_true', ← Bool.not_eq_true, serves_iff]

/-- A plugin serves what it is for. -/
@[simp] theorem Plugin.serves_self (p : Plugin) : p.serves p.role p.language = true :=
  serves_iff.2 ⟨rfl, rfl⟩

namespace PluginRegistry

/-! ## Calls -/

/-- A call that changes the plugins of a registry. -/
inductive Call where
  | addKotlin
  | terminate
  | register (p : Plugin)
  | unregister (role : PluginRole) (language : Language)

/-- The registry after a call. -/
def apply (r : PluginRegistry) : Call → PluginRegistry
  | .addKotlin => r.addKotlin.2
  | .terminate => r.terminate
  | .register p => (r.register p).2
  | .unregister role language => (r.unregister role language).2

/-- The registry after a history. -/
def run (r : PluginRegistry) (history : List Call) : PluginRegistry := history.foldl apply r

/-- No two plugins do the same for one language, and no two have one name. -/
structure Distinct (r : PluginRegistry) : Prop where
  roles : r.entries.Pairwise fun p q => ¬ (p.role = q.role ∧ p.language = q.language)
  names : r.entries.Pairwise fun p q => p.name ≠ q.name

variable {r : PluginRegistry} {p : Plugin}

/-- A name is taken if a plugin has it that does something else. -/
theorem isTaken_iff :
    r.isTaken p = true ↔
      ∃ q ∈ r.entries, q.name = p.name ∧ ¬ (q.role = p.role ∧ q.language = p.language) := by
  simp only [isTaken, List.any_eq_true, Bool.and_eq_true, beq_iff_eq, Bool.not_eq_true',
    ← Bool.not_eq_true, Plugin.serves_iff]

/-- What is taken out is the plugin that is found, and nothing else. -/
theorem unregister_eq (r : PluginRegistry) (role : PluginRole) (language : Language) :
    r.unregister role language =
      (r.find role language, ⟨r.entries.eraseP fun q => q.serves role language⟩) := by
  rw [unregister, find, List.find?_eq_bind_findIdx?_getElem?, List.eraseP_eq_eraseIdx]
  cases r.entries.findIdx? fun q => q.serves role language <;> rfl

/-- A plugin is refused before anything is taken out, so the registry stays as it was. -/
theorem register_of_isTaken (h : r.isTaken p = true) :
    r.register p = (.error (.duplicatePlugin p.name), r) := if_pos h

/-- A plugin whose name is free comes last, and the one that did the same is taken out. -/
theorem register_of_not_isTaken (h : r.isTaken p = false) :
    r.register p = (.ok (r.find p.role p.language),
      ⟨(r.unregister p.role p.language).2.entries ++ [p]⟩) := by
  rw [register, h, unregister_eq]
  rfl

/-- What a refused plugin leaves is the registry from before. -/
theorem eq_of_refused {r' : PluginRegistry} {e : RegistrationError}
    (refused : r.register p = (.error e, r')) : r' = r := by
  cases taken : r.isTaken p with
  | true =>
    rw [register_of_isTaken taken] at refused
    cases refused
    rfl
  | false =>
    rw [register_of_not_isTaken taken] at refused
    cases refused

/-- The name of a plugin that is not refused is free. -/
theorem not_isTaken_of_ok {old : Option Plugin} {r' : PluginRegistry}
    (ok : r.register p = (.ok old, r')) : r.isTaken p = false := by
  rw [← Bool.not_eq_true]
  intro taken
  rw [register_of_isTaken taken] at ok
  cases ok

/-! ## What a call does to distinct plugins -/

namespace Distinct

/-- Plugins that are left of distinct ones are distinct. -/
theorem of_sublist {r' : PluginRegistry} (h : r.Distinct) (sub : r'.entries.Sublist r.entries) :
    r'.Distinct :=
  ⟨h.roles.sublist sub, h.names.sublist sub⟩

/-- Of distinct plugins at most one serves a role for a language, so all that do are taken out. -/
theorem entries_unregister (h : r.Distinct) (role : PluginRole) (language : Language) :
    (r.unregister role language).2.entries =
      r.entries.filter fun q => !q.serves role language := by
  rw [unregister_eq]
  refine eraseP_eq_filter_not (h.roles.imp fun {p q} apart hp => ?_)
  rw [← Bool.not_eq_true, Plugin.serves_iff]
  rintro ⟨hrole, hlanguage⟩
  obtain ⟨prole, planguage⟩ := Plugin.serves_iff.1 hp
  exact apart ⟨prole.trans hrole.symm, planguage.trans hlanguage.symm⟩

/-- Taking a plugin out leaves distinct plugins. -/
theorem unregister (h : r.Distinct) (role : PluginRole) (language : Language) :
    (r.unregister role language).2.Distinct := by
  rw [unregister_eq]
  exact h.of_sublist (List.eraseP_sublist ..)

/-- The plugin that is found is the one that serves. -/
theorem find_eq_some_iff (h : r.Distinct) {role : PluginRole} {language : Language} {q : Plugin} :
    r.find role language = some q ↔ q ∈ r.entries ∧ q.role = role ∧ q.language = language := by
  rw [← Plugin.serves_iff]
  constructor
  · intro found
    have serves := List.find?_some found
    exact ⟨List.mem_of_find?_eq_some found, serves⟩
  · rintro ⟨mem, serves⟩
    obtain ⟨ahead, behind, entries⟩ := List.append_of_mem mem
    refine List.find?_eq_some_iff_append.2 ⟨serves, ahead, behind, entries, fun p hp => ?_⟩
    -- a plugin ahead does not do what `q` does
    have roles := h.roles
    rw [entries] at roles
    have apart := (List.pairwise_append.1 roles).2.2 p hp q List.mem_cons_self
    obtain ⟨qrole, qlanguage⟩ := Plugin.serves_iff.1 serves
    rw [Plugin.not_serves_iff]
    rintro ⟨prole, planguage⟩
    exact apart ⟨prole.trans qrole.symm, planguage.trans qlanguage.symm⟩

/-- A plugin that is not refused takes the place of the one that did the same, behind all others. -/
theorem entries_register {old : Option Plugin} {r' : PluginRegistry} (h : r.Distinct)
    (ok : r.register p = (.ok old, r')) :
    old = r.find p.role p.language ∧
      r'.entries = (r.entries.filter fun q => !q.serves p.role p.language) ++ [p] := by
  rw [register_of_not_isTaken (not_isTaken_of_ok ok)] at ok
  cases ok
  exact ⟨rfl, by rw [h.entries_unregister]⟩

/-- A plugin that is not refused differs in name from all that stay. -/
theorem register {old : Option Plugin} {r' : PluginRegistry} (h : r.Distinct)
    (ok : r.register p = (.ok old, r')) : r'.Distinct := by
  have free := not_isTaken_of_ok ok
  obtain ⟨-, entries⟩ := h.entries_register ok
  have others : ∀ q ∈ r.entries.filter (fun q => !q.serves p.role p.language),
      q ∈ r.entries ∧ ¬ (q.role = p.role ∧ q.language = p.language) := by
    intro q hq
    obtain ⟨mem, unserved⟩ := List.mem_filter.1 hq
    exact ⟨mem, Plugin.not_serves_iff.1 unserved⟩
  refine ⟨?_, ?_⟩
  · rw [entries]
    refine List.pairwise_append.2 ⟨h.roles.filter _, List.pairwise_singleton _ _, ?_⟩
    intro q hq p' hp'
    rw [List.mem_singleton.1 hp']
    exact (others q hq).2
  · rw [entries]
    refine List.pairwise_append.2 ⟨h.names.filter _, List.pairwise_singleton _ _, ?_⟩
    intro q hq p' hp' same
    rw [List.mem_singleton.1 hp'] at same
    obtain ⟨mem, other⟩ := others q hq
    exact absurd (isTaken_iff.2 ⟨q, mem, same, other⟩) (by simp [free])

end Distinct

/-! ## The plugins for Kotlin -/

/-- The plugins for Kotlin are registered one after the other; if the first one is refused the
second one is not tried. -/
theorem addKotlin_cases (r : PluginRegistry) :
    (∃ e, r.addKotlin = (some e, r)) ∨
      ∃ old r₁, r.register Plugin.kotlinLanguage = (.ok old, r₁) ∧
        ((∃ e, r.addKotlin = (some e, r₁)) ∨
          ∃ old' r₂, r₁.register Plugin.kotlinRuntime = (.ok old', r₂) ∧
            r.addKotlin = (none, r₂)) := by
  rcases first : r.register Plugin.kotlinLanguage with ⟨e | old, r₁⟩
  · obtain rfl := eq_of_refused first
    exact .inl ⟨e, by rw [addKotlin, first]⟩
  · refine .inr ⟨old, r₁, rfl, ?_⟩
    rcases second : r₁.register Plugin.kotlinRuntime with ⟨e | old', r₂⟩
    · obtain rfl := eq_of_refused second
      exact .inl ⟨e, by simp only [addKotlin, first, second]⟩
    · exact .inr ⟨old', r₂, rfl, by simp only [addKotlin, first, second]⟩

/-- Registering the plugins for Kotlin keeps plugins distinct, also if it breaks off. -/
theorem Distinct.addKotlin (h : r.Distinct) : r.addKotlin.2.Distinct := by
  obtain ⟨e, refused⟩ | ⟨old, r₁, first, ⟨e, refused⟩ | ⟨old', r₂, second, done⟩⟩ :=
    r.addKotlin_cases
  · rw [refused]
    exact h
  · rw [refused]
    exact h.register first
  · rw [done]
    exact (h.register first).register second

/-- Once the plugins for Kotlin are registered they are the last two. -/
theorem Distinct.entries_addKotlin (h : r.Distinct) (done : r.addKotlin.1 = none) :
    ∃ others, r.addKotlin.2.entries = others ++ [Plugin.kotlinLanguage, Plugin.kotlinRuntime] := by
  obtain ⟨e, refused⟩ | ⟨old, r₁, first, ⟨e, refused⟩ | ⟨old', r₂, second, eq⟩⟩ :=
    r.addKotlin_cases
  · rw [refused] at done
    cases done
  · rw [refused] at done
    cases done
  · have language := (h.entries_register first).2
    have runtime := ((h.register first).entries_register second).2
    -- the runtime plugin does not take the place of the other one
    have stays : (Plugin.kotlinLanguage.serves Plugin.kotlinRuntime.role
        Plugin.kotlinRuntime.language) = false := by decide
    rw [eq, runtime, language, List.filter_append,
      List.filter_cons_of_pos (by rw [stays, Bool.not_false]), List.append_assoc]
    exact ⟨_, rfl⟩

/-- Registering a plugin that is there already moves it to the end. -/
theorem Distinct.register_of_mem (h : r.Distinct) (mem : p ∈ r.entries) :
    ∃ r', r.register p = (.ok (some p), r') ∧
      r'.entries = (r.entries.filter fun q => !q.serves p.role p.language) ++ [p] := by
  have free : r.isTaken p = false := by
    rw [← Bool.not_eq_true, isTaken_iff]
    rintro ⟨q, hq, hname, other⟩
    -- names are distinct, so the holder of the name is the plugin itself
    have same : q = p := List.inj_on_of_nodup_map (List.pairwise_map.2 h.names) hq mem hname
    exact other (same ▸ ⟨rfl, rfl⟩)
  have ok := register_of_not_isTaken free
  have found : r.find p.role p.language = some p := h.find_eq_some_iff.2 ⟨mem, rfl, rfl⟩
  rw [found] at ok
  exact ⟨_, ok, (h.entries_register ok).2⟩

/-- No plugin does what one behind it does. -/
theorem Distinct.filter_ahead (h : r.Distinct) {ahead behind : List Plugin}
    (split : r.entries = ahead ++ behind) (hp : p ∈ behind) :
    (ahead.filter fun q => !q.serves p.role p.language) = ahead := by
  have apart := h.roles
  rw [split] at apart
  refine List.filter_eq_self.2 fun q hq => ?_
  rw [Plugin.not_serves_iff]
  exact (List.pairwise_append.1 apart).2.2 q hq p hp

/-- Registering the last two plugins again, if they are those for Kotlin, changes nothing. -/
theorem Distinct.addKotlin_of_last (h : r.Distinct) {others : List Plugin}
    (last : r.entries = others ++ [Plugin.kotlinLanguage, Plugin.kotlinRuntime]) :
    r.addKotlin = (none, r) := by
  have unserved : ∀ p ∈ [Plugin.kotlinLanguage, Plugin.kotlinRuntime],
      others.filter (fun q => !q.serves p.role p.language) = others := fun p hp =>
    h.filter_ahead last hp
  obtain ⟨r₁, first, entries₁⟩ :=
    h.register_of_mem (p := Plugin.kotlinLanguage) (by rw [last]; simp)
  rw [last, List.filter_append, unserved _ (by simp)] at entries₁
  have moved : r₁.entries = others ++ [Plugin.kotlinRuntime, Plugin.kotlinLanguage] := by
    rw [entries₁, List.append_assoc]
    rfl
  obtain ⟨r₂, second, entries₂⟩ :=
    (h.register first).register_of_mem (p := Plugin.kotlinRuntime) (by rw [moved]; simp)
  rw [moved, List.filter_append, unserved _ (by simp)] at entries₂
  have back : r₂ = r := by
    have entries : r₂.entries = r.entries := by
      rw [entries₂, last, List.append_assoc]
      rfl
    cases r₂
    cases r
    exact congrArg _ entries
  simp only [PluginRegistry.addKotlin, first, second, back]

/-! ## Histories -/

/-- Every call keeps the plugins distinct. -/
theorem Distinct.apply (h : r.Distinct) (call : Call) : (r.apply call).Distinct := by
  cases call with
  | addKotlin => exact h.addKotlin
  | terminate => exact (h.unregister _ _).unregister _ _
  | register p =>
    rw [PluginRegistry.apply]
    rcases answered : r.register p with ⟨e | old, r'⟩
    · rw [eq_of_refused answered]
      exact h
    · exact h.register answered
  | unregister role language => exact h.unregister role language

/-- Every history keeps the plugins distinct. -/
theorem Distinct.run (h : r.Distinct) (history : List Call) : (r.run history).Distinct :=
  List.foldlRecOn history PluginRegistry.apply h fun _ h call _ => h.apply call

/-- After every history of a new registry no two plugins do the same for one language, and no two
have one name. A plugin is refused exactly if one that does something else has its name, and then
nothing changes. Otherwise it replaces exactly the plugin that did the same, behind all others in
their order. The plugins for Kotlin, once they are registered, can be registered again without any
change. -/
theorem distinct_run (history : List Call) :
    let r := ({} : PluginRegistry).run history
    r.Distinct ∧
      (∀ p e, (r.register p).1 = .error e ↔ e = .duplicatePlugin p.name ∧
        ∃ q ∈ r.entries, q.name = p.name ∧ ¬ (q.role = p.role ∧ q.language = p.language)) ∧
      (∀ p e r', r.register p = (.error e, r') → r' = r) ∧
      (∀ p old r', r.register p = (.ok old, r') →
        (∀ q, old = some q ↔ q ∈ r.entries ∧ q.role = p.role ∧ q.language = p.language) ∧
          r'.entries = (r.entries.filter fun q => !q.serves p.role p.language) ++ [p]) ∧
      (r.addKotlin.1 = none → r.addKotlin.2.addKotlin = (none, r.addKotlin.2)) := by
  intro r
  have distinct : r.Distinct := Distinct.run ⟨.nil, .nil⟩ history
  refine ⟨distinct, fun p e => ?_, fun p e r' => eq_of_refused, fun p old r' ok => ?_,
    fun done => ?_⟩
  · rw [← isTaken_iff]
    cases taken : r.isTaken p with
    | true =>
      rw [register_of_isTaken taken]
      simp [eq_comm]
    | false =>
      rw [register_of_not_isTaken taken]
      simp
  · obtain ⟨same, entries⟩ := distinct.entries_register ok
    refine ⟨fun q => ?_, entries⟩
    rw [same]
    exact distinct.find_eq_some_iff
  · obtain ⟨others, last⟩ := distinct.entries_addKotlin done
    exact distinct.addKotlin.addKotlin_of_last last

/-- A newer runtime plugin takes the place of the one for Kotlin, one for another language is
refused its name, and the Kotlin plugins can be put back, twice. -/
theorem distinct_run_updated :
    let newer : Plugin := { Plugin.kotlinRuntime with version := 2 }
    let impostor : Plugin := { Plugin.kotlinRuntime with language := .swift }
    let r := ({} : PluginRegistry).run [.addKotlin, .register newer]
    r.entries = [Plugin.kotlinLanguage, newer] ∧
      r.register impostor = (.error (.duplicatePlugin "konan"), r) ∧
      (∃ r', r.register Plugin.kotlinRuntime = (.ok (some newer), r') ∧
        r'.entries = [Plugin.kotlinLanguage, Plugin.kotlinRuntime]) ∧
      r.addKotlin.1 = none ∧ r.addKotlin.2.addKotlin = (none, r.addKotlin.2) := by
  intro newer impostor r
  obtain ⟨-, refused_iff, unchanged, replaces, again⟩ :=
    distinct_run [.addKotlin, .register newer]
  have entries : r.entries = [Plugin.kotlinLanguage, newer] := by decide +kernel
  have refused : (r.register impostor).1 = .error (.duplicatePlugin "konan") :=
    (refused_iff impostor _).2 ⟨rfl, newer, by rw [entries]; simp, rfl, by decide⟩
  have kept : (r.register impostor).2 = r := unchanged _ _ _ (Prod.ext refused rfl)
  have accepted : r.register Plugin.kotlinRuntime =
      (.ok (some newer), ⟨[Plugin.kotlinLanguage, Plugin.kotlinRuntime]⟩) := by decide +kernel
  obtain ⟨-, order⟩ := replaces _ _ _ accepted
  have registered : r.addKotlin.1 = none := by decide +kernel
  exact ⟨entries, Prod.ext refused kept, ⟨_, accepted, order⟩, registered, again registered⟩

/-! ## Both plugins for Kotlin or neither -/

/-- Either both plugins for Kotlin are registered, or an error is told and the plugins are those
from before. -/
def AllOrNothing (before : PluginRegistry) : Option RegistrationError × PluginRegistry → Prop
  | (none, after) => Plugin.kotlinLanguage ∈ after.entries ∧ Plugin.kotlinRuntime ∈ after.entries
  | (some _, after) => after.entries = before.entries

/-- The first plugin for Kotlin changes the registry, as its name is free for it and it is not the
last one already, and then the name of the second one is held by a plugin for another language. -/
structure BreaksOff (r : PluginRegistry) : Prop where
  languageFree : ∀ p ∈ r.entries, p.name = Plugin.kotlinLanguage.name →
    p.role = .language ∧ p.language = .kotlin
  moves : r.entries.getLast? ≠ some Plugin.kotlinLanguage
  runtimeTaken : ∃ p ∈ r.entries, p.name = Plugin.kotlinRuntime.name ∧ p.language ≠ .kotlin

section

variable {r₁ : PluginRegistry} {old : Option Plugin}

/-- Registering a plugin changes nothing exactly if it is the last one already. -/
theorem Distinct.entries_register_eq_iff (h : r.Distinct) (ok : r.register p = (.ok old, r₁)) :
    r₁.entries = r.entries ↔ r.entries.getLast? = some p := by
  have entries := (h.entries_register ok).2
  constructor
  · intro same
    rw [← same, entries, List.getLast?_concat]
  · intro last
    obtain ⟨others, split⟩ := List.getLast?_eq_some_iff.1 last
    rw [entries, split, List.filter_append, h.filter_ahead split List.mem_cons_self,
      List.filter_cons_of_neg (by simp), List.filter_nil, List.append_nil]

/-- Behind the first plugin for Kotlin the name of the second one is taken exactly if a plugin for
another language has it. -/
theorem Distinct.isTaken_kotlinRuntime_iff (h : r.Distinct)
    (ok : r.register Plugin.kotlinLanguage = (.ok old, r₁)) :
    r₁.isTaken Plugin.kotlinRuntime = true ↔
      ∃ q ∈ r.entries, q.name = Plugin.kotlinRuntime.name ∧ q.language ≠ .kotlin := by
  rw [isTaken_iff, (h.entries_register ok).2]
  constructor
  · rintro ⟨q, hq, named, other⟩
    rcases List.mem_append.1 hq with hq | hq
    · obtain ⟨mem, unserved⟩ := List.mem_filter.1 hq
      refine ⟨q, mem, named, fun kotlin => ?_⟩
      cases role : q.role with
      | language => exact Plugin.not_serves_iff.1 unserved ⟨role, kotlin⟩
      | runtime => exact other ⟨role, kotlin⟩
    · rw [List.mem_singleton.1 hq] at named
      exact absurd named (by decide)
  · rintro ⟨q, mem, named, foreign⟩
    have unserved := Plugin.not_serves_iff.2 fun (h : q.role = .language ∧ _) => foreign h.2
    exact ⟨q, List.mem_append_left _ (List.mem_filter.2 ⟨mem, unserved⟩), named,
      fun h => foreign h.2⟩

/-- The name of the first plugin for Kotlin is free if only a plugin that does the same has it. -/
theorem isTaken_kotlinLanguage_eq_false_iff :
    r.isTaken Plugin.kotlinLanguage = false ↔
      ∀ p ∈ r.entries, p.name = Plugin.kotlinLanguage.name →
        p.role = .language ∧ p.language = .kotlin := by
  rw [← Bool.not_eq_true, isTaken_iff]
  push Not
  rfl

end

/-- After every history of a new registry, both plugins for Kotlin are registered or nothing
changes, unless the first one changes the registry and the second one is refused. In that case the
first one stays, and the plugin that did the same before it is lost. -/
theorem addKotlin_allOrNothing_iff (history : List Call) :
    let r := ({} : PluginRegistry).run history
    (r.AllOrNothing r.addKotlin ↔ ¬ r.BreaksOff) ∧
      (r.BreaksOff →
        r.addKotlin.1 = some (.duplicatePlugin Plugin.kotlinRuntime.name) ∧
          r.addKotlin.2.entries =
            (r.entries.filter fun q => !q.serves .language .kotlin) ++
              [Plugin.kotlinLanguage]) := by
  intro r
  have h : r.Distinct := Distinct.run ⟨.nil, .nil⟩ history
  cases first : r.isTaken Plugin.kotlinLanguage with
  | true =>
    have outcome : r.addKotlin = (some (.duplicatePlugin Plugin.kotlinLanguage.name), r) := by
      rw [addKotlin, register_of_isTaken first]
    have whole : ¬ r.BreaksOff := fun b => by
      rw [isTaken_kotlinLanguage_eq_false_iff.2 b.languageFree] at first
      cases first
    rw [outcome]
    exact ⟨iff_of_true rfl whole, fun b => absurd b whole⟩
  | false =>
    have ok := register_of_not_isTaken first
    generalize (⟨_⟩ : PluginRegistry) = r₁ at ok
    have languageFree := isTaken_kotlinLanguage_eq_false_iff.1 first
    obtain ⟨-, entries⟩ := h.entries_register ok
    cases second : r₁.isTaken Plugin.kotlinRuntime with
    | true =>
      have outcome : r.addKotlin = (some (.duplicatePlugin Plugin.kotlinRuntime.name), r₁) := by
        simp only [addKotlin, ok, register_of_isTaken second]
      have runtimeTaken := (h.isTaken_kotlinRuntime_iff ok).1 second
      rw [outcome]
      refine ⟨(h.entries_register_eq_iff ok).trans ?_, fun _ => ⟨rfl, entries⟩⟩
      rw [← not_iff_not, not_not]
      exact ⟨fun moves => ⟨languageFree, moves, runtimeTaken⟩, BreaksOff.moves⟩
    | false =>
      have ok₂ := register_of_not_isTaken second
      generalize (⟨_⟩ : PluginRegistry) = r₂ at ok₂
      have outcome : r.addKotlin = (none, r₂) := by simp only [addKotlin, ok, ok₂]
      have whole : ¬ r.BreaksOff := fun b => by
        rw [(h.isTaken_kotlinRuntime_iff ok).2 b.runtimeTaken] at second
        cases second
      obtain ⟨others, last⟩ := h.entries_addKotlin (by rw [outcome])
      rw [outcome] at last ⊢
      have both : Plugin.kotlinLanguage ∈ r₂.entries ∧ Plugin.kotlinRuntime ∈ r₂.entries := by
        rw [last]
        simp
      exact ⟨iff_of_true both whole, fun b => absurd b whole⟩

/-- With an older plugin for Kotlin in the registry, and a plugin for Swift under the name of the
runtime plugin, registering the plugins for Kotlin fails and yet replaces the older one. -/
theorem addKotlin_allOrNothing_iff_replaced :
    let older : Plugin := { Plugin.kotlinLanguage with version := 0 }
    let impostor : Plugin := { Plugin.kotlinRuntime with language := .swift }
    let r := ({} : PluginRegistry).run [.register older, .register impostor]
    r.BreaksOff ∧ r.entries = [older, impostor] ∧
      r.addKotlin.1 = some (.duplicatePlugin "konan") ∧
      r.addKotlin.2.entries = [impostor, Plugin.kotlinLanguage] := by
  intro older impostor r
  have entries : r.entries = [older, impostor] := by decide +kernel
  have breaksOff : r.BreaksOff := by
    refine ⟨?_, ?_, impostor, ?_, rfl, by decide⟩
    · rw [entries]
      decide
    · rw [entries]
      decide
    · rw [entries]
      simp
  obtain ⟨failed, after⟩ :=
    (addKotlin_allOrNothing_iff [.register older, .register impostor]).2 breaksOff
  refine ⟨breaksOff, entries, failed, after.trans ?_⟩
  show (r.entries.filter _) ++ _ = _
  rw [entries]
  decide

/-- A plugin for Swift has the name of the runtime plugin. Registering the plugins for Kotlin fails
then, but the first of them stays in the registry. -/
theorem addKotlin_not_allOrNothing :
    let impostor : Plugin := { Plugin.kotlinRuntime with language := .swift }
    let r := ({} : PluginRegistry).run [.register impostor]
    r.addKotlin = (some (.duplicatePlugin "konan"), ⟨[impostor, Plugin.kotlinLanguage]⟩) ∧
      r.entries = [impostor] ∧ ¬ r.AllOrNothing r.addKotlin := by
  intro impostor r
  have outcome : r.addKotlin =
      (some (.duplicatePlugin "konan"), ⟨[impostor, Plugin.kotlinLanguage]⟩) := by decide +kernel
  have entries : r.entries = [impostor] := by decide +kernel
  refine ⟨outcome, entries, ?_⟩
  rw [outcome, AllOrNothing, entries]
  decide

end PluginRegistry

end HeapScope
