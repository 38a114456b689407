import HeapScope.Image

/-!
# Exception breakpoints

The runtime throws every Kotlin exception through one function and catches it through another. A
breakpoint on these events is bound to the image that holds the throwing function; without such an
image it is pending.
-/

namespace HeapScope

/-- What happens to an exception. -/
inductive ExceptionEvent where
  | thrown | caught
deriving DecidableEq, Repr

namespace ExceptionEvent

/-- The function that an event passes through. -/
def entryPoint : ExceptionEvent → String
  | thrown => "ThrowException"
  | caught => "__cxa_begin_catch"

/-- The name of an event. -/
def text : ExceptionEvent → String
  | thrown => "throw"
  | caught => "catch"

end ExceptionEvent

/-- Where a breakpoint is to be set. The address is absent if the image lacks the symbol. -/
structure BreakpointLocation where
  symbol : String
  event : ExceptionEvent
  image : String
  address : Option UInt64
deriving DecidableEq, Repr

/-- A breakpoint location as it is written. -/
def BreakpointLocation.text (l : BreakpointLocation) : String :=
  l.symbol ++ " [" ++ l.event.text ++ "] in " ++ l.image ++
    match l.address with
    | some a => " @ " ++ Text.hex a
    | none => ""

/-- The breakpoints that a host is to set, or why there are none. -/
structure BreakpointSpec where
  locations : List BreakpointLocation := []
  diagnostic : Option InspectionError := none
deriving DecidableEq, Repr

namespace BreakpointSpec

/-- Whether there is no breakpoint to set. -/
def isEmpty (s : BreakpointSpec) : Bool := s.locations.isEmpty

/-- Whether the breakpoints wait for the runtime to be loaded. -/
def isPending (s : BreakpointSpec) : Bool := s.locations.isEmpty && s.diagnostic.isSome

/-- Whether there is a breakpoint for an event. -/
def hasEvent (s : BreakpointSpec) (e : ExceptionEvent) : Bool :=
  s.locations.any fun l => l.event == e

end BreakpointSpec

/-- The events that breakpoints are wanted for. -/
structure ExceptionResolver where
  catches : Bool
  throws : Bool
deriving DecidableEq, Repr

namespace ExceptionResolver

/-- Whether breakpoints are wanted for an event. -/
def wants (r : ExceptionResolver) : ExceptionEvent → Bool
  | .thrown => r.throws
  | .caught => r.catches

/-- The wanted events, throwing first. -/
def events (r : ExceptionResolver) : List ExceptionEvent :=
  (if r.throws then [.thrown] else []) ++ (if r.catches then [.caught] else [])

/-- The address of an event in the image that holds the runtime. Both functions are looked up among
all images; the catching one counts only where it is found in that image. -/
def eventAddress (symbols : String → Option SymbolLocation) (runtime : SymbolLocation) :
    ExceptionEvent → Option UInt64
  | .thrown => some runtime.address
  | .caught =>
    ((symbols ExceptionEvent.caught.entryPoint).filter fun l => l.image == runtime.image).map
      (·.address)

/-- The breakpoints for the wanted events, given where symbols are found. -/
def resolve (r : ExceptionResolver) (symbols : String → Option SymbolLocation) :
    BreakpointSpec :=
  if r.events.isEmpty then {}
  else
    match symbols ExceptionEvent.thrown.entryPoint with
    | none => ⟨[], some .runtimeNotLoaded⟩
    | some runtime =>
      ⟨r.events.map fun e =>
        ⟨e.entryPoint, e, runtime.image, eventAddress symbols runtime e⟩, none⟩

end ExceptionResolver

/-- Whether an image with the runtime is loaded. -/
def ImageTable.hasRuntime (t : ImageTable) : Bool :=
  (t.findSymbol ExceptionEvent.thrown.entryPoint).isSome

end HeapScope
