import SpriteStage.Main
import SpriteStage.Proofs.Picture
import SpriteStage.Proofs.PaintingOrder
import SpriteStage.Ticker.Timeline
import SpriteStage.Workspace.Scratch
import SpriteStage.Proofs.Sound
import SpriteStage.Proofs.Step
import SpriteStage.Proofs.History
import SpriteStage.Proofs.Redraw
import SpriteStage.Proofs.LastWriter
import SpriteStage.Proofs.Failures
import SpriteStage.Proofs.Strokes
import SpriteStage.Proofs.ExportImport
import SpriteStage.Proofs.Numbering
import SpriteStage.Proofs.References
import SpriteStage.Proofs.Deletion
import SpriteStage.Proofs.Culling
import SpriteStage.Proofs.Drift
import SpriteStage.Proofs.Coverage
import SpriteStage.Proofs.Representation
import SpriteStage.Proofs.Sinks
import SpriteStage.Proofs.Layout
import SpriteStage.Proofs.Frames
import SpriteStage.Proofs.Journal
import SpriteStage.Proofs.Replay
import SpriteStage.Proofs.LastFrame
import SpriteStage.Proofs.Pacing
import SpriteStage.Proofs.Timeline
import SpriteStage.Proofs.Wire.RoundTrip
import SpriteStage.Proofs.Independence
import SpriteStage.Proofs.Bookkeeping
import SpriteStage.Proofs.Observers
import SpriteStage.Proofs.CanonicalPlan
import SpriteStage.Proofs.Attachments
import SpriteStage.Proofs.CheckedBlit
import SpriteStage.Proofs.Uploads
import SpriteStage.Proofs.DrawingCalls
import SpriteStage.Proofs.AssetNames
import SpriteStage.Proofs.Drives
import SpriteStage.Proofs.Overrides
