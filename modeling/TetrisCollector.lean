import TetrisCollector.Basic
import TetrisCollector.LiveSet
import TetrisCollector.Manifest
import TetrisCollector.Expire
import TetrisCollector.Cycle
import TetrisCollector.Run
import TetrisCollector.Evict
import TetrisCollector.Loop
import TetrisCollector.Quiet
import TetrisCollector.Interleaving
import TetrisCollector.Protocol
import TetrisCollector.Refinement
