import PatternAlgebra.Cache
import PatternAlgebra.Construction
import PatternAlgebra.Proofs.Nesting.GroupTails
import PatternAlgebra.Proofs.Rope.Text
import PatternAlgebra.Rope.Walk
import PatternAlgebra.Proofs.Nesting.Opening
import PatternAlgebra.Proofs.Nesting.Clean
import PatternAlgebra.Proofs.Shape.Classification
import PatternAlgebra.Proofs.Pattern.Grouping
import PatternAlgebra.Proofs.Pattern.Combination
import PatternAlgebra.Proofs.Pattern.CharacterSet
import PatternAlgebra.Proofs.Pattern.Quantified
import PatternAlgebra.Proofs.Construction.Clean
import PatternAlgebra.Proofs.Construction.Shape
import PatternAlgebra.Proofs.Construction.Names
import PatternAlgebra.Proofs.Grammar.Generates
import PatternAlgebra.Proofs.Grammar.LastItem
import PatternAlgebra.Proofs.Construction.Validity
import PatternAlgebra.Proofs.Construction.Measured
import PatternAlgebra.Proofs.Pattern.Regrouping
import PatternAlgebra.Proofs.Pattern.Alternation
import PatternAlgebra.Proofs.Rope.Refinement
import PatternAlgebra.Proofs.Cache.Transparent
import PatternAlgebra.Proofs.Construction.Agreement
import PatternAlgebra.Proofs.Nesting.Nested
import PatternAlgebra.Proofs.Shape.Grammar
import PatternAlgebra.Proofs.Pattern.Repetition
import PatternAlgebra.Proofs.Pattern.Sequence
import PatternAlgebra.Proofs.Options.Reading
import PatternAlgebra.Proofs.Pattern.Escaped
import PatternAlgebra.Proofs.Repetition.Interval
import PatternAlgebra.Proofs.Pattern.Concatenation
import PatternAlgebra.Proofs.Pattern.Membership
import PatternAlgebra.Proofs.Repetition.Tokens
import PatternAlgebra.Proofs.Compiled.Flags
import PatternAlgebra.Proofs.Compiled.Anchoring
import PatternAlgebra.Proofs.Compiled.Union
import PatternAlgebra.Proofs.Compiled.Grouping
import PatternAlgebra.Proofs.Compiled.Verbatim
