import HeapScope.Bytes.Reader
import HeapScope.ChildSequence
import HeapScope.Collection
import HeapScope.Command
import HeapScope.CommandLine.Arguments
import HeapScope.CommandLine.Usage
import HeapScope.Console
import HeapScope.Context
import HeapScope.DebugInfo.Abbreviation
import HeapScope.DebugInfo.Attribute
import HeapScope.DebugInfo.ClassLayouts
import HeapScope.DebugInfo.Unit
import HeapScope.Decimal.Shortest
import HeapScope.DynamicType
import HeapScope.Elf.File
import HeapScope.Elf.Header
import HeapScope.Elf.Section
import HeapScope.Error
import HeapScope.Exception
import HeapScope.FileTree
import HeapScope.Formatter.Builtin
import HeapScope.Formatter.Children
import HeapScope.Formatter.Config
import HeapScope.Formatter.Registry
import HeapScope.Formatter.Summary
import HeapScope.Image
import HeapScope.Language
import HeapScope.Layout
import HeapScope.Location
import HeapScope.Memory.Mapping
import HeapScope.Memory.Reader
import HeapScope.Memory.Snapshot
import HeapScope.ObjectFile
import HeapScope.Pattern.Bracket
import HeapScope.Pattern.CharSet
import HeapScope.Pattern.Escape
import HeapScope.Pattern.Expression
import HeapScope.Pattern.Property
import HeapScope.Pattern.Reader
import HeapScope.Plugin
import HeapScope.Primitive
import HeapScope.Probe
import HeapScope.Program
import HeapScope.Register
import HeapScope.Session
import HeapScope.Symbol
import HeapScope.Target
import HeapScope.Text.Blank
import HeapScope.Text.CodeRanges
import HeapScope.Text.Dump
import HeapScope.Text.Glyphless
import HeapScope.Text.Numeral
import HeapScope.Text.Quoted
import HeapScope.Text.Utf16
import HeapScope.Text.Utf8
import HeapScope.TypeDescriptor
import HeapScope.Unicode.Category
import HeapScope.Unicode.Folding
import HeapScope.Unicode.Property
import HeapScope.Unicode.Script
import HeapScope.Value
import HeapScope.Main
import HeapScope.Proofs.Probe
import HeapScope.Proofs.Reading
import HeapScope.Proofs.Text.Numeral
import HeapScope.Proofs.Text.Integer
import HeapScope.Proofs.Text.Quoted
import HeapScope.Proofs.Text.Utf16
import HeapScope.Proofs.Text.Words
import HeapScope.Proofs.Text.Trim
import HeapScope.Proofs.Primitive
import HeapScope.Proofs.Scalar
import HeapScope.Proofs.Location
import HeapScope.Proofs.Command
import HeapScope.Proofs.Memory.Mapping
import HeapScope.Proofs.Memory.Snapshot
import HeapScope.Proofs.SymbolTable
import HeapScope.Proofs.SymbolSearch
import HeapScope.Proofs.ImageTable
import HeapScope.Proofs.TypeLookup
import HeapScope.Proofs.TypeName
import HeapScope.Proofs.ImageHistory
import HeapScope.Proofs.Resolution
import HeapScope.Proofs.Staleness
import HeapScope.Proofs.Header
import HeapScope.Proofs.Completion
import HeapScope.Proofs.ChildSequence
import HeapScope.Proofs.ChildWalk
import HeapScope.Proofs.Alike
import HeapScope.Proofs.Collection
import HeapScope.Proofs.ListElements
import HeapScope.Proofs.LiveSlots
import HeapScope.Proofs.Breakpoint
import HeapScope.Proofs.PluginRegistry
import HeapScope.Proofs.Formatter.Consultation
import HeapScope.Proofs.Formatter.Recursion
import HeapScope.Proofs.Formatter.Hardcoded
import HeapScope.Proofs.Formatter.Nullable
import HeapScope.Proofs.Formatter.Preference
import HeapScope.Proofs.Formatter.Preview
import HeapScope.Proofs.Formatter.Registration
import HeapScope.Proofs.Formatter.StringText
import HeapScope.Proofs.Truth
import HeapScope.Proofs.ShortRead
import HeapScope.Proofs.Expansion
import HeapScope.Proofs.Session.History
import HeapScope.Proofs.Session.Synchronisation
import HeapScope.Proofs.Session.Reconciliation
import HeapScope.Proofs.Session.StaleValue
import HeapScope.Proofs.Memory.ImageList
import HeapScope.Proofs.Pattern.Ahead
import HeapScope.Proofs.Pattern.Matching
import HeapScope.Proofs.Pattern.AheadSet
import HeapScope.Proofs.Pattern.AheadGroup
import HeapScope.Proofs.Pattern.Anchoring
