import CardPress.Card
import CardPress.CardText
import CardPress.Color
import CardPress.Command.Arguments
import CardPress.Command.Option
import CardPress.Command.Run
import CardPress.Command.Usage
import CardPress.Command.Word
import CardPress.Condition
import CardPress.Draw
import CardPress.Failure
import CardPress.FileName
import CardPress.Files.Path
import CardPress.Files.Tree
import CardPress.Font.Registry
import CardPress.Font.Standard
import CardPress.Font.Widths
import CardPress.ImageStore
import CardPress.Impose
import CardPress.Layout
import CardPress.Layout.Field
import CardPress.Layout.Reader
import CardPress.Main
import CardPress.Markup
import CardPress.Named
import CardPress.Number.Complex
import CardPress.Number.Fixed
import CardPress.Number.FloatShape
import CardPress.Number.Numeral
import CardPress.Number.Scalar
import CardPress.Number.Shortest
import CardPress.Paint.Call
import CardPress.Paint.Canvas
import CardPress.Project
import CardPress.Project.Folder
import CardPress.Proofs.Agreement
import CardPress.Proofs.Command.Aborting
import CardPress.Proofs.Command.Delivery
import CardPress.Proofs.Command.Outcome
import CardPress.Proofs.Command.Paths
import CardPress.Proofs.Command.Stages
import CardPress.Proofs.Draw.Faults
import CardPress.Proofs.Draw.Hidden
import CardPress.Proofs.Draw.ImagePlace
import CardPress.Proofs.Draw.Letters
import CardPress.Proofs.Draw.Nesting
import CardPress.Proofs.Draw.OpenTags
import CardPress.Proofs.Draw.Outcome
import CardPress.Proofs.Draw.Painted
import CardPress.Proofs.Draw.Runs
import CardPress.Proofs.Draw.ShapeStyle
import CardPress.Proofs.Draw.Shown
import CardPress.Proofs.Draw.StyledRuns
import CardPress.Proofs.Draw.Tandem
import CardPress.Proofs.Files.Fit
import CardPress.Proofs.Files.Names
import CardPress.Proofs.Files.Tree
import CardPress.Proofs.Font.Known
import CardPress.Proofs.Font.Variants
import CardPress.Proofs.Impose.Landing
import CardPress.Proofs.Impose.Pages
import CardPress.Proofs.Interleaving
import CardPress.Proofs.Layout.Conditions
import CardPress.Proofs.Layout.Frame
import CardPress.Proofs.Loading
import CardPress.Proofs.Markup.Grammar
import CardPress.Proofs.Markup.Reading
import CardPress.Proofs.Markup.Writing
import CardPress.Proofs.Number.Exact
import CardPress.Proofs.Number.Whole
import CardPress.Proofs.Paint.Alignment
import CardPress.Proofs.Paint.Figures
import CardPress.Proofs.Paint.Fonts
import CardPress.Proofs.Paint.Ink
import CardPress.Proofs.Paint.Letters
import CardPress.Proofs.Paint.Page
import CardPress.Proofs.Paint.Twins
import CardPress.Proofs.Project.Cards
import CardPress.Proofs.Project.Colors
import CardPress.Proofs.Project.Failures
import CardPress.Proofs.Render.Alone
import CardPress.Proofs.Render.Hidden
import CardPress.Proofs.Render.History
import CardPress.Proofs.Render.Jobs
import CardPress.Proofs.Render.KeepGoing
import CardPress.Proofs.Report
import CardPress.Proofs.Selection
import CardPress.Proofs.Sheet.CropBlocks
import CardPress.Proofs.Sheet.CropEdges
import CardPress.Proofs.Sheet.CropMarks
import CardPress.Proofs.Sheet.Failures
import CardPress.Proofs.Sheet.Grid
import CardPress.Proofs.Sheet.Units
import CardPress.Proofs.Style.Attribute
import CardPress.Proofs.Style.Cascade
import CardPress.Proofs.Style.ColorText
import CardPress.Proofs.Style.Dash
import CardPress.Proofs.Table
import CardPress.Proofs.Template.Expressions
import CardPress.Proofs.Template.Offsets
import CardPress.Proofs.Template.Plan
import CardPress.Proofs.Template.Scan
import CardPress.Proofs.Template.Statements
import CardPress.Proofs.Template.Stream
import CardPress.Proofs.Text.CaseTable
import CardPress.Proofs.Text.Lines
import CardPress.Proofs.Text.Lower
import CardPress.Proofs.Text.Trim
import CardPress.Proofs.Text.Words
import CardPress.Proofs.Typeset.Glyphs
import CardPress.Proofs.Typeset.Greedy
import CardPress.Proofs.Typeset.Rows
import CardPress.Proofs.Typeset.Seams
import CardPress.Proofs.Typeset.Tokens
import CardPress.Proofs.Typeset.WholeWords
import CardPress.Proofs.Typeset.Widths
import CardPress.Proofs.Typeset.Words
import CardPress.Render
import CardPress.Report
import CardPress.Selection
import CardPress.Sheet
import CardPress.Sheet.Automatic
import CardPress.Sheet.Manual
import CardPress.Sheet.Size
import CardPress.Sheet.Type
import CardPress.Style.Dash
import CardPress.Style.Keyword
import CardPress.Style.Mixed
import CardPress.Style.Path
import CardPress.Style.Text
import CardPress.Table.Cell
import CardPress.Table.Csv
import CardPress.Table.File
import CardPress.Template
import CardPress.Template.Access
import CardPress.Template.Braces
import CardPress.Template.Call
import CardPress.Template.Compile
import CardPress.Template.Evaluate
import CardPress.Template.Execute
import CardPress.Template.Filter
import CardPress.Template.Filter.Items
import CardPress.Template.Filter.Text
import CardPress.Template.Fold
import CardPress.Template.Frame
import CardPress.Template.Grammar.Expression
import CardPress.Template.Grammar.Statement
import CardPress.Template.Grammar.Stream
import CardPress.Template.Literal
import CardPress.Template.Method
import CardPress.Template.Method.Text
import CardPress.Template.Number
import CardPress.Template.Operation
import CardPress.Template.Percent
import CardPress.Template.Problem
import CardPress.Template.Same
import CardPress.Template.Scope
import CardPress.Template.Shape
import CardPress.Template.Signature
import CardPress.Template.Sort
import CardPress.Template.Test
import CardPress.Template.Token
import CardPress.Template.Tree
import CardPress.Template.Trouble
import CardPress.Template.Value
import CardPress.Template.Walk
import CardPress.Template.Written
import CardPress.Text.Blank
import CardPress.Text.Case
import CardPress.Text.Cased
import CardPress.Text.CharacterName
import CardPress.Text.CharacterName.Alphabets
import CardPress.Text.CharacterName.Pictures
import CardPress.Text.CharacterName.Scripts
import CardPress.Text.CharacterName.Symbols
import CardPress.Text.Digit
import CardPress.Text.Letter
import CardPress.Text.LetterKind
import CardPress.Text.Name
import CardPress.Text.Printable
import CardPress.Text.Quoted
import CardPress.Text.Range
import CardPress.Text.Search
import CardPress.Text.Utf8
import CardPress.Typeset
import CardPress.Whole
import CardPress.Xml.CodePage
import CardPress.Xml.Codec
import CardPress.Xml.Declaration
import CardPress.Xml.DocumentType
import CardPress.Xml.Element
import CardPress.Xml.Encoding
import CardPress.Xml.Mark
import CardPress.Xml.NameChar
import CardPress.Xml.Reader
import CardPress.Xml.Scan
import CardPress.Xml.Tag
