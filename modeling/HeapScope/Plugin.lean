import HeapScope.Error
import HeapScope.Language

/-!
# Plugin registry

A host finds plugins by their role and language. The registry holds one entry for each pair of role
and language, and one for each name: registering a pair again replaces its entry, and a name held
under another pair is refused.
-/

namespace HeapScope

/-- What a plugin does for a language. -/
inductive PluginRole where
  | language | runtime
deriving DecidableEq, Repr

/-- A registered plugin. -/
structure Plugin where
  name : String
  description : String
  version : Nat
  role : PluginRole
  language : Language
deriving DecidableEq, Repr

namespace Plugin

/-- The plugin that formats Kotlin values. -/
def kotlinLanguage : Plugin := ⟨"Kotlin", "Kotlin Language", 1, .language, .kotlin⟩

/-- The plugin that knows the Kotlin/Native runtime. -/
def kotlinRuntime : Plugin := ⟨"konan", "Kotlin Language Runtime", 1, .runtime, .kotlin⟩

/-- Whether a plugin has a role for a language. -/
def serves (p : Plugin) (role : PluginRole) (language : Language) : Bool :=
  p.role == role && p.language == language

end Plugin

/-- The registered plugins, the latest one last. -/
structure PluginRegistry where
  entries : List Plugin := []
deriving DecidableEq, Repr

namespace PluginRegistry

/-- The plugin of a role and language. -/
def find (r : PluginRegistry) (role : PluginRole) (language : Language) : Option Plugin :=
  r.entries.find? fun p => p.serves role language

/-- The plugin of a name. -/
def findByName (r : PluginRegistry) (name : String) : Option Plugin :=
  r.entries.find? fun p => p.name == name

/-- Takes the plugin of a role and language out, and tells which one that was. -/
def unregister (r : PluginRegistry) (role : PluginRole) (language : Language) :
    Option Plugin × PluginRegistry :=
  match r.entries.findIdx? fun p => p.serves role language with
  | none => (none, r)
  | some i => (r.entries[i]?, ⟨r.entries.eraseIdx i⟩)

/-- Whether a plugin's name is held under another role or language. -/
def isTaken (r : PluginRegistry) (p : Plugin) : Bool :=
  r.entries.any fun e => e.name == p.name && !e.serves p.role p.language

/-- Registers a plugin in place of the one that had its role and language, and tells which one that
was. The registry that results is returned also when the plugin is refused. -/
def register (r : PluginRegistry) (p : Plugin) :
    Except RegistrationError (Option Plugin) × PluginRegistry :=
  if r.isTaken p then (.error (.duplicatePlugin p.name), r)
  else
    let (previous, others) := r.unregister p.role p.language
    (.ok previous, ⟨others.entries ++ [p]⟩)

/-- Registers the two Kotlin plugins. The second one is not tried if the first one is refused. -/
def addKotlin (r : PluginRegistry) : Option RegistrationError × PluginRegistry :=
  match r.register Plugin.kotlinLanguage with
  | (.error e, r₁) => (some e, r₁)
  | (.ok _, r₁) =>
    match r₁.register Plugin.kotlinRuntime with
    | (.error e, r₂) => (some e, r₂)
    | (.ok _, r₂) => (none, r₂)

/-- Takes the two Kotlin plugins out. -/
def terminate (r : PluginRegistry) : PluginRegistry :=
  ((r.unregister .language .kotlin).2.unregister .runtime .kotlin).2

/-- Whether the plugin that formats values can be created for a language. -/
def canCreateLanguage (r : PluginRegistry) (l : Language) : Bool :=
  (r.find .language l).isSome && l.isServed

/-- Whether the plugin that knows the runtime can be created for a language. -/
def canCreateRuntime (r : PluginRegistry) (l : Language) : Bool :=
  (r.find .runtime l).isSome && l.isServed

end PluginRegistry

end HeapScope
