import SeriesSchema.Program
import SeriesSchema.Directive
import SeriesSchema.Main
import SeriesSchema.Proofs.ClassBody
import SeriesSchema.Proofs.Paths
import SeriesSchema.Proofs.Walks
import SeriesSchema.Proofs.TreeChanges
import SeriesSchema.Proofs.ExtractedNames
import SeriesSchema.Proofs.Inputs
import SeriesSchema.Proofs.SchemaFiles
import SeriesSchema.Proofs.AlikeTrees
import SeriesSchema.Proofs.FailingRun
import SeriesSchema.Proofs.SchemaText
import SeriesSchema.Proofs.Literals
import SeriesSchema.Proofs.Policies
import SeriesSchema.Proofs.Directories
import SeriesSchema.Proofs.Rewriting
import SeriesSchema.Proofs.SecondRun
import SeriesSchema.Proofs.Commands
import SeriesSchema.Proofs.OwnChanges
import SeriesSchema.Proofs.CheckedSettings
import SeriesSchema.Proofs.OwnSchemas
import SeriesSchema.Proofs.SeparatedWords
import SeriesSchema.Proofs.PlainTexts
import SeriesSchema.Proofs.FlatFiles
import SeriesSchema.Proofs.WordsBeforeSigns
import SeriesSchema.Proofs.SettingSources
import SeriesSchema.Proofs.Initializers
import SeriesSchema.Proofs.Components
import SeriesSchema.Proofs.Constants
import SeriesSchema.Proofs.StandingWords
import SeriesSchema.Proofs.Surroundings
import SeriesSchema.Proofs.Conditions
import SeriesSchema.Proofs.Listings
import SeriesSchema.Proofs.Extensions
import SeriesSchema.Proofs.Calls
import SeriesSchema.Proofs.CheckedReads
import SeriesSchema.Proofs.TokenPositions
import SeriesSchema.Proofs.TextPositions
