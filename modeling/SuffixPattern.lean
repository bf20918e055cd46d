import SuffixPattern.Branch
import SuffixPattern.CommandLine.Arguments
import SuffixPattern.CommandLine.FileSystem
import SuffixPattern.CommandLine.Host
import SuffixPattern.CommandLine.Path
import SuffixPattern.CommandLine.Run
import SuffixPattern.CompactTrie
import SuffixPattern.Compilation
import SuffixPattern.Decoding
import SuffixPattern.Diagnostics
import SuffixPattern.Domain.Label
import SuffixPattern.Domain.Punycode
import SuffixPattern.Domain.Unicode
import SuffixPattern.Forest
import SuffixPattern.Fragment
import SuffixPattern.Json
import SuffixPattern.Log
import SuffixPattern.Main
import SuffixPattern.Orientation
import SuffixPattern.Pattern
import SuffixPattern.Proofs.Accounting
import SuffixPattern.Proofs.BranchOrder
import SuffixPattern.Proofs.BranchWords
import SuffixPattern.Proofs.CanonicalText
import SuffixPattern.Proofs.CharClass
import SuffixPattern.Proofs.CharRuns
import SuffixPattern.Proofs.Compaction
import SuffixPattern.Proofs.CompiledFiles
import SuffixPattern.Proofs.Coverage
import SuffixPattern.Proofs.Derivation
import SuffixPattern.Proofs.DiagnosticsReading
import SuffixPattern.Proofs.Entries
import SuffixPattern.Proofs.EntrySet
import SuffixPattern.Proofs.EntryText
import SuffixPattern.Proofs.Escaping
import SuffixPattern.Proofs.Exactness
import SuffixPattern.Proofs.FailedCompile
import SuffixPattern.Proofs.FragmentText
import SuffixPattern.Proofs.FragmentWords
import SuffixPattern.Proofs.GroupReading
import SuffixPattern.Proofs.Halves
import SuffixPattern.Proofs.HostRuns
import SuffixPattern.Proofs.Insertion
import SuffixPattern.Proofs.JsonReading
import SuffixPattern.Proofs.LongestFirst
import SuffixPattern.Proofs.LowerCase
import SuffixPattern.Proofs.MemberOrder
import SuffixPattern.Proofs.Members
import SuffixPattern.Proofs.NodeBranches
import SuffixPattern.Proofs.NodeOrder
import SuffixPattern.Proofs.NodePaths
import SuffixPattern.Proofs.NormalForm
import SuffixPattern.Proofs.Places
import SuffixPattern.Proofs.Preference
import SuffixPattern.Proofs.Questions
import SuffixPattern.Proofs.Reading
import SuffixPattern.Proofs.RenderedLines
import SuffixPattern.Proofs.Spans
import SuffixPattern.Proofs.SpelledLabels
import SuffixPattern.Proofs.Spelling
import SuffixPattern.Proofs.SuffixLines
import SuffixPattern.Proofs.TrieFragment
import SuffixPattern.Proofs.TrieOrder
import SuffixPattern.Proofs.TrieSets
import SuffixPattern.Proofs.TrieViews
import SuffixPattern.Proofs.Unambiguous
import SuffixPattern.Proofs.Writing
import SuffixPattern.Ranked
import SuffixPattern.Regex.CharSet
import SuffixPattern.Regex.Escape
import SuffixPattern.Regex.Expr
import SuffixPattern.Regex.Limits
import SuffixPattern.Regex.Match
import SuffixPattern.Regex.Reader
import SuffixPattern.Regex.Search
import SuffixPattern.SortedMap
import SuffixPattern.SortedSet
import SuffixPattern.SuffixList
import SuffixPattern.Text
import SuffixPattern.Trie
import SuffixPattern.Unicode.Bidi
import SuffixPattern.Unicode.Blank
import SuffixPattern.Unicode.ByteSequence
import SuffixPattern.Unicode.Casing
import SuffixPattern.Unicode.DomainMapping
import SuffixPattern.Unicode.Joining
import SuffixPattern.Unicode.Mark
import SuffixPattern.Unicode.Normalization
import SuffixPattern.Unicode.Quoted
import SuffixPattern.Unicode.Table
import SuffixPattern.Unicode.Word
