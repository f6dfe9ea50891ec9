import ClassTable.Main
import ClassTable.Proofs.Layout
import ClassTable.Proofs.Building
import ClassTable.Proofs.Checking
import ClassTable.Proofs.Generation
import ClassTable.Proofs.Relayout
import ClassTable.Proofs.DeletedRows
import ClassTable.Proofs.RenderedMap
import ClassTable.Proofs.Violations
import ClassTable.Proofs.SourceText
import ClassTable.Proofs.Outlining
import ClassTable.Proofs.RowLines
import ClassTable.Proofs.DiskChanges
import ClassTable.Proofs.OutputFiles
import ClassTable.Proofs.GenerateEffect
import ClassTable.Proofs.LevelRows
import ClassTable.Proofs.Termination
import ClassTable.Proofs.BuildLog
import ClassTable.Proofs.MemberBlocks
import ClassTable.Proofs.ReplacedBlock
import ClassTable.Proofs.SettingLeaves
import ClassTable.Proofs.SettingSources
import ClassTable.Proofs.SettingFile
import ClassTable.Proofs.DateText
import ClassTable.Proofs.SettingPrecedence
import ClassTable.Proofs.VariableText
import ClassTable.Proofs.MappedCells
import ClassTable.Proofs.MovedColumns
import ClassTable.Proofs.LevelExtent
import ClassTable.Proofs.ReachedLevels
import ClassTable.Proofs.ForestData
import ClassTable.Proofs.Comments
import ClassTable.Proofs.Addresses
