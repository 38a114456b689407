import HeapScope.Error
import HeapScope.Text.Blank

/-!
# Compilation targets and object layout

A target fixes the width of a pointer, and the width fixes where things lie in a heap object: one
word of header, then for an array its 32-bit element count and, from the next multiple of eight,
its elements; a boxed value lies at the first multiple of its own size behind the header.
-/

namespace HeapScope

/-- Rounds up to a multiple of `align`; an alignment of zero or one changes nothing. -/
def alignUp (value align : UInt64) : Except Crash UInt64 :=
  if align ≤ 1 then .ok value
  else mulExact (value / align + (if value % align = 0 then 0 else 1)) align

/-- The layout of heap objects. -/
structure Abi where
  pointerSize : UInt64
deriving DecidableEq, Repr

namespace Abi

/-- The layout of 64-bit targets. -/
def wide : Abi := ⟨8⟩

/-- The size of an object header. -/
def headerSize (a : Abi) : UInt64 := a.pointerSize

/-- Where an array holds its element count. -/
def countOffset (a : Abi) : UInt64 := a.pointerSize

/-- Where the elements of an array begin. -/
def dataOffset (a : Abi) : Except Crash UInt64 := do
  alignUp (← addExact a.countOffset 4) 8

/-- Where a boxed value of a size lies. -/
def boxedOffset (a : Abi) (size : UInt64) : Except Crash UInt64 :=
  alignUp a.headerSize size

end Abi

/-- A compilation target of Kotlin/Native. -/
inductive Target where
  | androidArm32 | androidArm64 | iphoneArm64 | iphoneSimX8664
  | linuxX8664 | linuxArm32 | mingwX8664 | osxX8664
deriving DecidableEq, Repr

namespace Target

/-- Every target, in the order in which names are looked up. -/
def all : List Target :=
  [androidArm32, androidArm64, iphoneArm64, iphoneSimX8664,
   linuxX8664, linuxArm32, mingwX8664, osxX8664]

/-- The suffix by which a target is known. -/
def suffix : Target → String
  | androidArm32 => "android_arm32"
  | androidArm64 => "android_arm64"
  | iphoneArm64 => "ios"
  | iphoneSimX8664 => "ios_sim"
  | linuxX8664 => "linux"
  | linuxArm32 => "raspberrypi"
  | mingwX8664 => "mingw"
  | osxX8664 => "osx"

/-- The long name of a target. -/
def longName : Target → String
  | androidArm32 => "android_arm32"
  | androidArm64 => "android_arm64"
  | iphoneArm64 => "iphone_arm64"
  | iphoneSimX8664 => "iphonesim_x8664"
  | linuxX8664 => "linux_x8664"
  | linuxArm32 => "linux_arm32"
  | mingwX8664 => "mingw_x8664"
  | osxX8664 => "osx_x8664"

/-- The extension of a program for the target. -/
def programSuffix : Target → String
  | androidArm32 | androidArm64 => "so"
  | mingwX8664 => "exe"
  | _ => "kexe"

/-- The target of the machine that inspects. -/
def host : Target := linuxX8664

/-- Further names of targets. -/
def aliases : List (String × Target) :=
  [("macbook", osxX8664), ("iphone", iphoneArm64), ("host", host)]

/-- Reads a target's suffix, long name or alias. Blanks around it and the case of ASCII letters do
not matter. -/
def ofText (s : String) : Option Target :=
  let name := String.ofList ((Text.trim s.toList).map Char.toLower)
  (aliases.lookup name).or
    (all.find? fun t => t.suffix == name || t.longName == name)

/-- The message for a name of no target. -/
def unknownMessage (s : String) : String := "Unknown Kotlin/Native target '" ++ s ++ "'"

/-- The width of a pointer. -/
def pointerSize : Target → UInt64
  | androidArm32 | linuxArm32 => 4
  | _ => 8

/-- The object layout of a target. -/
def abi (t : Target) : Abi := ⟨t.pointerSize⟩

end Target

end HeapScope
