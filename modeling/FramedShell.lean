import FramedShell.Main
import FramedShell.Config.Load
import FramedShell.Launch
import FramedShell.Painter
import FramedShell.Shell
import FramedShell.Display.Canvas
import FramedShell.Rehearsal.Files
import FramedShell.Rehearsal.Run
import FramedShell.Rehearsal.Session
import FramedShell.Rehearsal.Target
import FramedShell.Proofs.Act
import FramedShell.Proofs.Effect
import FramedShell.Proofs.Record
import FramedShell.Proofs.Input
import FramedShell.Proofs.WindowSize
import FramedShell.Proofs.Canvas
import FramedShell.Proofs.Ending
import FramedShell.Proofs.Picture
import FramedShell.Proofs.Screen
import FramedShell.Proofs.Bare
import FramedShell.Proofs.SmallDisplays
import FramedShell.Proofs.Conversation
import FramedShell.Proofs.Output
import FramedShell.Proofs.Encoding
import FramedShell.Proofs.Glass
import FramedShell.Proofs.Typing
import FramedShell.Proofs.Layers
import FramedShell.Proofs.Painting
import FramedShell.Proofs.Engines
import FramedShell.Proofs.Reading
import FramedShell.Proofs.Restoration
import FramedShell.Proofs.Numbers
import FramedShell.Proofs.Sources
import FramedShell.Proofs.Settings
import FramedShell.Proofs.Division
import FramedShell.Proofs.Viewport
import FramedShell.Proofs.Overhang
import FramedShell.Proofs.Fitting
import FramedShell.Proofs.Lines
import FramedShell.Proofs.Shifting
import FramedShell.Proofs.Pages
import FramedShell.Proofs.Halves
import FramedShell.Proofs.Buffer
import FramedShell.Proofs.Inscription
import FramedShell.Proofs.Visibility
import FramedShell.Proofs.Advisory
import FramedShell.Proofs.Keys
import FramedShell.Proofs.Decoding
import FramedShell.Proofs.Arguments
import FramedShell.Proofs.ExitStatus
import FramedShell.Proofs.RightEdge
import FramedShell.Proofs.Refitting
