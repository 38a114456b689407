/-!
# Registers

The general registers of a 64-bit x86 thread. A register is written with a dollar sign and read
with or without it, in either case; `pc` is another name of `rip`.
-/

namespace HeapScope

/-- A general register. -/
inductive Register where
  | rax | rbx | rcx | rdx | rsi | rdi | rbp | rsp
  | r8 | r9 | r10 | r11 | r12 | r13 | r14 | r15 | rip
deriving DecidableEq, Repr

namespace Register

/-- Every register with its name. -/
def table : List (Register × String) :=
  [(rax, "rax"), (rbx, "rbx"), (rcx, "rcx"), (rdx, "rdx"), (rsi, "rsi"), (rdi, "rdi"),
   (rbp, "rbp"), (rsp, "rsp"), (r8, "r8"), (r9, "r9"), (r10, "r10"), (r11, "r11"), (r12, "r12"),
   (r13, "r13"), (r14, "r14"), (r15, "r15"), (rip, "rip")]

/-- The name of a register. -/
def name (r : Register) : String :=
  (table.lookup r).getD ""

/-- A register as it is written: its name behind a dollar sign. -/
def text (r : Register) : String := "$" ++ r.name

/-- Reads a register: dollar signs in front and the case of ASCII letters do not matter. -/
def ofText (s : String) : Option Register :=
  let name := String.ofList ((s.toList.dropWhile (· = '$')).map Char.toLower)
  if name = "pc" then some rip
  else (table.find? fun e => e.2 == name).map (·.1)

end Register

/-- What reads registers: the value of one, or the reason why there is none. -/
abbrev RegisterReader := Register → Except String UInt64

/-- Captured register values, the latest one first. -/
structure RegisterSnapshot where
  values : List (Register × UInt64) := []

namespace RegisterSnapshot

/-- Records the value of a register. -/
def set (s : RegisterSnapshot) (r : Register) (value : UInt64) : RegisterSnapshot :=
  ⟨(r, value) :: s.values⟩

/-- The value last recorded for a register. -/
def read (s : RegisterSnapshot) : RegisterReader := fun r =>
  match s.values.lookup r with
  | some value => .ok value
  | none => .error ("Register " ++ r.text ++ " is not available")

end RegisterSnapshot

end HeapScope
