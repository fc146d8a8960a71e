import FrontEnd.CommandLine.Arguments
import FrontEnd.CommandLine.Directory
import FrontEnd.CommandLine.Event
import FrontEnd.CommandLine.Run
import FrontEnd.CompilationUnit
import FrontEnd.Diagnostic.Basic
import FrontEnd.Diagnostic.Render
import FrontEnd.Grammar.Ascription
import FrontEnd.Grammar.Expression
import FrontEnd.Grammar.Reading
import FrontEnd.Grammar.Rules
import FrontEnd.Grammar.Session
import FrontEnd.Grammar.Statement
import FrontEnd.Main
import FrontEnd.SymbolTable.Basic
import FrontEnd.SymbolTable.Declare
import FrontEnd.Text.Basic
import FrontEnd.Text.ByteCursor
import FrontEnd.Text.Integer
import FrontEnd.Text.Line
import FrontEnd.Text.Quoted
import FrontEnd.Text.Unicode
import FrontEnd.Token.Basic
import FrontEnd.Token.Scan
import FrontEnd.Tree.Basic
import FrontEnd.Tree.Dump
import FrontEnd.Tree.Equality
import FrontEnd.Proofs.Grammar.Acceptance
import FrontEnd.Proofs.Grammar.Comparison
import FrontEnd.Proofs.Grammar.Correspondence
import FrontEnd.Proofs.Grammar.Composition
import FrontEnd.Proofs.Grammar.Derivation
import FrontEnd.Proofs.Grammar.ExplainedExpressions
import FrontEnd.Proofs.Grammar.ExplainedStatements
import FrontEnd.Proofs.Grammar.Explanation
import FrontEnd.Proofs.Grammar.Layout
import FrontEnd.Proofs.Grammar.Limits
import FrontEnd.Proofs.Grammar.Location
import FrontEnd.Proofs.Grammar.Loops
import FrontEnd.Proofs.Grammar.Need
import FrontEnd.Proofs.Grammar.Numeral
import FrontEnd.Proofs.Grammar.Placement
import FrontEnd.Proofs.Grammar.Printing
import FrontEnd.Proofs.Grammar.ReadingLaws
import FrontEnd.Proofs.Grammar.Recognition
import FrontEnd.Proofs.Grammar.RoundTrip
import FrontEnd.Proofs.Grammar.Threshold
import FrontEnd.Proofs.Grammar.ViablePrefix
import FrontEnd.Proofs.Safety
import FrontEnd.Proofs.Scan.Continuation
import FrontEnd.Proofs.Scan.Cursor
import FrontEnd.Proofs.Scan.Decomposition
import FrontEnd.Proofs.Scan.Laws
import FrontEnd.Proofs.Scan.Legibility
import FrontEnd.Proofs.Scan.Shift
import FrontEnd.Proofs.Scan.Spelling
import FrontEnd.Proofs.SymbolTable.Alike
import FrontEnd.Proofs.SymbolTable.FiniteMap
import FrontEnd.Proofs.SymbolTable.LoadFactor
import FrontEnd.Proofs.SymbolTable.Probing
import FrontEnd.Proofs.SymbolTable.Strict
import FrontEnd.Proofs.Text.Bytes
import FrontEnd.Proofs.Text.Lines
import FrontEnd.Proofs.Tree.Print
import FrontEnd.Proofs.Tree.Related
import FrontEnd.Proofs.CommandLine.Run
import FrontEnd.Proofs.Diagnostic.Rendering
import FrontEnd.Proofs.Grammar.Script
import FrontEnd.Proofs.Grammar.Machine
import FrontEnd.Proofs.Grammar.Transitions
import FrontEnd.Proofs.Grammar.Sessions
import FrontEnd.Proofs.Grammar.Classification
import FrontEnd.Proofs.Grammar.ClassifiedReadings
import FrontEnd.Proofs.SymbolTable.Declaration
import FrontEnd.Proofs.Grammar.Precedence
import FrontEnd.Proofs.Grammar.Recursion
import FrontEnd.Proofs.Grammar.Termination
import FrontEnd.Proofs.SymbolTable.Refusal
import FrontEnd.Proofs.SymbolTable.Growth
import FrontEnd.Proofs.Text.Places
import FrontEnd.Proofs.SymbolTable.Hash
import FrontEnd.Proofs.Grammar.Account
