import TextIntake.Main
import TextIntake.Proofs.Bytes
import TextIntake.Proofs.CommandLine.Grammar
import TextIntake.Proofs.Comment.CStyle
import TextIntake.Proofs.Comment.Cutting
import TextIntake.Proofs.Comment.Lines
import TextIntake.Proofs.Comment.Marking
import TextIntake.Proofs.Comment.Reader
import TextIntake.Proofs.Comment.Removal
import TextIntake.Proofs.Comment.SingleLine
import TextIntake.Proofs.Comment.Strip
import TextIntake.Proofs.Encoding.Declaration
import TextIntake.Proofs.Encoding.Detection
import TextIntake.Proofs.Encoding.Inverse
import TextIntake.Proofs.Encoding.Marker
import TextIntake.Proofs.Encoding.Repertoire
import TextIntake.Proofs.Encoding.SingleByte
import TextIntake.Proofs.Encoding.Utf16
import TextIntake.Proofs.Encoding.Utf8
import TextIntake.Proofs.File.Writing
import TextIntake.Proofs.Json.Record
import TextIntake.Proofs.Json.Scalar
import TextIntake.Proofs.Json.Skipping
import TextIntake.Proofs.Line.Appending
import TextIntake.Proofs.Line.Column
import TextIntake.Proofs.Line.Cut
import TextIntake.Proofs.Line.Page
import TextIntake.Proofs.Line.PureComment
import TextIntake.Proofs.Line.Resplitting
import TextIntake.Proofs.Line.Rewriting
import TextIntake.Proofs.Line.Splitting
import TextIntake.Proofs.Line.Verdict
import TextIntake.Proofs.Options.Format
import TextIntake.Proofs.Source.Building
import TextIntake.Proofs.Source.Copy
import TextIntake.Proofs.Source.Ending
import TextIntake.Proofs.Source.Equality
import TextIntake.Proofs.Source.Fallback
import TextIntake.Proofs.Source.Fetching
import TextIntake.Proofs.Source.History
import TextIntake.Proofs.Source.Launches
import TextIntake.Proofs.Source.Lockstep
import TextIntake.Proofs.Source.NotText
import TextIntake.Proofs.Source.Reporting
import TextIntake.Proofs.Source.Saving
import TextIntake.Proofs.Source.Settling
import TextIntake.Proofs.Source.Storage
import TextIntake.Proofs.Text.Blank
import TextIntake.Proofs.Text.Column
import TextIntake.Proofs.Text.Inline
import TextIntake.Proofs.Text.Slice
import TextIntake.Proofs.Transcoding
import TextIntake.Proofs.View
import TextIntake.Proofs.View.Decoding
import TextIntake.Proofs.View.History
import TextIntake.Proofs.View.Lines
