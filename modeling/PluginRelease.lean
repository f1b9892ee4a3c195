import PluginRelease.Main
import PluginRelease.Proofs.Build.Changelog
import PluginRelease.Proofs.Build.Identifier
import PluginRelease.Proofs.Publish.Pipeline
import PluginRelease.Proofs.Build.Rebuild
import PluginRelease.Proofs.Publish.Upload
import PluginRelease.Proofs.Publish.Batch
import PluginRelease.Proofs.Publish.DryRun
import PluginRelease.Proofs.Publish.Accounting
import PluginRelease.Proofs.Publish.Protocol
import PluginRelease.Proofs.Publish.Secrecy
import PluginRelease.Proofs.Build.Comment
import PluginRelease.Proofs.Tag.Key
import PluginRelease.Proofs.Tag.Sorting
import PluginRelease.Proofs.Tag.Spelling
import PluginRelease.Proofs.Marker.Source
import PluginRelease.Proofs.Changelog.Template
import PluginRelease.Proofs.Descriptor.Unquoted
import PluginRelease.Proofs.Publish.Gaps
import PluginRelease.Proofs.Build.Recipe
import PluginRelease.Proofs.Form.Multipart
import PluginRelease.Proofs.Form.Value
import PluginRelease.Proofs.Form.Browser
import PluginRelease.Proofs.CommandLine.Modes
import PluginRelease.Proofs.Failure.Context
import PluginRelease.Proofs.Form.Complete
