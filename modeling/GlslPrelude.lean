import GlslPrelude.Condition.Overlap
import GlslPrelude.Condition.Parser
import GlslPrelude.Condition.Printer
import GlslPrelude.Config
import GlslPrelude.Declaration.Parser
import GlslPrelude.Declaration.Printer
import GlslPrelude.Fragment.Split
import GlslPrelude.Json.Reference
import GlslPrelude.Overload
import GlslPrelude.Prelude.Source
import GlslPrelude.Proofs.Condition.Grammar
import GlslPrelude.Proofs.Config.RoundTrip
import GlslPrelude.Proofs.Declaration.Comments
import GlslPrelude.Proofs.Declaration.Composition
import GlslPrelude.Proofs.Declaration.Constants
import GlslPrelude.Proofs.Declaration.Negation
import GlslPrelude.Proofs.Declaration.Qualifiers
import GlslPrelude.Proofs.Declaration.RoundTrip
import GlslPrelude.Proofs.Declaration.UnsizedArrays
import GlslPrelude.Proofs.Fragment.DirectiveGrammar
import GlslPrelude.Proofs.Fragment.Merging
import GlslPrelude.Proofs.Fragment.Nesting
import GlslPrelude.Proofs.Fragment.Selection
import GlslPrelude.Proofs.Fragment.WellFormed
import GlslPrelude.Proofs.Overload.Ranking
import GlslPrelude.Proofs.Overload.Replacement
import GlslPrelude.Proofs.Overload.Stability
import GlslPrelude.Proofs.SymbolTable.Answers
import GlslPrelude.Proofs.SymbolTable.ArraySizes
import GlslPrelude.Proofs.SymbolTable.Compatibility
import GlslPrelude.Proofs.SymbolTable.Consistency
import GlslPrelude.Proofs.SymbolTable.ConstantSizes
import GlslPrelude.Proofs.SymbolTable.Independence
import GlslPrelude.Proofs.SymbolTable.Redeclaration
import GlslPrelude.Proofs.SymbolTable.ReportedPlaces
import GlslPrelude.Proofs.SymbolTable.Visibility
import GlslPrelude.Proofs.TableCache.Recency
import GlslPrelude.Proofs.Token.IntegerLiterals
import GlslPrelude.Proofs.Token.Joining
import GlslPrelude.Proofs.Token.Segmentation
import GlslPrelude.Proofs.Type.Comparison
import GlslPrelude.Proofs.Type.Operators
import GlslPrelude.Proofs.Type.Products
import GlslPrelude.Proofs.Type.Reading
import GlslPrelude.Proofs.Value.Ranges
import GlslPrelude.SymbolTable.Equality
import GlslPrelude.SymbolTable.Query
import GlslPrelude.SymbolTable.Source
import GlslPrelude.TableCache
import GlslPrelude.Token.Lexer
import GlslPrelude.Type.Conversion
import GlslPrelude.Type.Name
import GlslPrelude.Type.Operator
import GlslPrelude.Value.Printer
